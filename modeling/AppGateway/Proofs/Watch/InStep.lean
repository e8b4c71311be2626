import AppGateway.Proofs.Gateway.Listing
import AppGateway.Proofs.Sample
import AppGateway.Watch.Event
import Mathlib.Logic.Function.Basic

/-!
# A list that is kept up by a watch

A client lists the applications of a namespace and then follows the events of a watch.  What it has then is what a list
would give it, with one exception: a watch judges each record as it is reported, so when a record is modified into
another type, the client is not told and keeps the application that it had.

* (changes) `RecordChange.Leads`: changes of the records of a namespace, each reported by one item of a watch;
* (exception) `RecordChange.TakenOut`: the last that was told of an application is what it was before a modification
  took its record out of the type;
* (view) `inStep_of_leads`: by induction on the changes, what a client has of a name is what is shown of the record, or
  the name is taken out;
* (result) `followed_list_is_in_step`.
-/

namespace AppGateway

/-- A change of a record of a namespace. -/
inductive RecordChange where
  | created (record : Record)
  | modified (old new : Record)
  | deleted (last : Record)

namespace RecordChange

/-- The record that a change is reported with. -/
def reported : RecordChange → Record
  | created record => record
  | modified _ new => new
  | deleted last => last

/-- What was stored before a change. -/
def before : RecordChange → Option Record
  | created _ => none
  | modified old _ => some old
  | deleted last => some last

/-- What is stored after a change. -/
def after : RecordChange → Option Record
  | created record => some record
  | modified _ new => some new
  | deleted _ => none

/-- The item of a watch that reports a change. -/
def item : RecordChange → WatchItem
  | created record => .ok (.added record)
  | modified _ new => .ok (.modified new)
  | deleted last => .ok (.deleted last)

/-- Changes lead from the records of a namespace to other ones when each of them finds what it changes. -/
inductive Leads (start : String → Option Record) : List RecordChange → (String → Option Record) → Prop
  | none : Leads start [] start
  | snoc {changes records} (c : RecordChange) (h : Leads start changes records)
      (found : records c.reported.name = c.before) :
      Leads start (changes ++ [c]) (Function.update records c.reported.name c.after)

/-- A modification of the record of an application into one that is not shown. -/
def TakesOut (d : ResourceDefinition) (name : String) : RecordChange → Prop
  | modified old new => new.name = d.names.toBacking name ∧ (d.shown? old).isSome ∧ d.shown? new = none
  | _ => False

/-- A change took the record of an application out of the type, and no change of the record since then was told. -/
def TakenOut (d : ResourceDefinition) (name : String) (changes : List RecordChange) : Prop :=
  ∃ earlier c later, changes = earlier ++ c :: later ∧ c.TakesOut d name ∧
    ∀ c' ∈ later, c'.reported.name = d.names.toBacking name → d.shown? c'.reported = none

end RecordChange

/-- What a client that had some applications has after an event. -/
def ApplicationEvent.follow (view : String → Option Application) : ApplicationEvent → String → Option Application
  | .added app => Function.update view app.name (some app)
  | .modified app => Function.update view app.name (some app)
  | .deleted app => Function.update view app.name none
  | .error _ => view

namespace ResourceDefinition

/-- What a client has after the items of a watch. -/
def follow (d : ResourceDefinition) (view : String → Option Application) (items : List WatchItem) :
    String → Option Application :=
  (items.filterMap d.eventOf?).foldl ApplicationEvent.follow view

end ResourceDefinition

namespace RecordChange

variable {d : ResourceDefinition} {name : String}

/-- Only a modification makes something that was shown disappear without being told. -/
theorem takesOut_iff {c : RecordChange} :
    c.TakesOut d name ↔ c.reported.name = d.names.toBacking name ∧ (c.before.bind d.shown?).isSome ∧
      d.shown? c.reported = none := by
  cases c with
  | created record => simp [TakesOut, before]
  | modified old new => exact Iff.rfl
  | deleted last =>
    simp only [TakesOut, before, reported, Option.bind_some, false_iff, not_and]
    intro _ hbefore hnone
    rw [hnone] at hbefore
    cases hbefore

private theorem takenOut_nil : ¬ TakenOut d name [] := by
  rintro ⟨earlier, c, later, h, -⟩
  simp at h

/-- A name is taken out by the last change, or was before and the last change was not told. -/
theorem takenOut_snoc {changes : List RecordChange} {c : RecordChange} :
    TakenOut d name (changes ++ [c]) ↔
      (TakenOut d name changes ∧ (c.reported.name = d.names.toBacking name → d.shown? c.reported = none)) ∨
        c.TakesOut d name := by
  constructor
  · rintro ⟨earlier, c₀, later, h, hout, hlater⟩
    rcases List.eq_nil_or_concat later with rfl | ⟨later, c', rfl⟩
    · obtain ⟨-, hc⟩ := List.append_inj' h rfl
      cases hc
      exact .inr hout
    · rw [List.concat_eq_append, ← List.cons_append, ← List.append_assoc] at h
      obtain ⟨hchanges, hc⟩ := List.append_inj' h rfl
      cases hc
      rw [List.concat_eq_append] at hlater
      exact .inl ⟨⟨earlier, c₀, later, hchanges, hout, fun x hx => hlater x (by simp [hx])⟩, hlater c (by simp)⟩
  · rintro (⟨⟨earlier, c₀, later, rfl, hout, hlater⟩, hc⟩ | hout)
    · refine ⟨earlier, c₀, later ++ [c], by simp, hout, fun x hx => ?_⟩
      rcases List.mem_append.mp hx with hx | hx
      · exact hlater x hx
      · rw [List.mem_singleton.mp hx]
        exact hc
    · exact ⟨changes, c, [], rfl, hout, by simp⟩

/-- The event in which a change is told. -/
def told (c : RecordChange) (app : Application) : ApplicationEvent :=
  match c with
  | created _ => .added app
  | modified .. => .modified app
  | deleted _ => .deleted app

private theorem eventOf?_item (c : RecordChange) : d.eventOf? c.item = (d.shown? c.reported).map c.told := by
  cases c <;> rfl

private theorem follow_told (view : String → Option Application) {c : RecordChange} {app : Application}
    (h : d.shown? c.reported = some app) :
    (c.told app).follow view = Function.update view app.name (c.after.bind d.shown?) := by
  cases c with
  | created record => rw [after, Option.bind_some, show d.shown? record = some app from h]; rfl
  | modified old new => rw [after, Option.bind_some, show d.shown? new = some app from h]; rfl
  | deleted last => rfl

private theorem follow_snoc (view : String → Option Application) (changes : List RecordChange) (c : RecordChange) :
    d.follow view ((changes ++ [c]).map item) =
      match d.shown? c.reported with
      | some app => Function.update (d.follow view (changes.map item)) app.name (c.after.bind d.shown?)
      | none => d.follow view (changes.map item) := by
  rw [ResourceDefinition.follow, List.map_append, List.filterMap_append, List.foldl_append, List.map_singleton,
    List.filterMap_cons, List.filterMap_nil, eventOf?_item]
  cases h : d.shown? c.reported with
  | none => rfl
  | some app => exact follow_told _ h

/-- A change that is not told leaves nothing to be shown. -/
private theorem shown_after_of_not_told {c : RecordChange} (h : d.shown? c.reported = none) : c.after.bind d.shown? =
    none := by
  cases c with
  | created record => exact h
  | modified old new => exact h
  | deleted last => rfl

/-! ### The view of one name -/

/-- What a client has of a name is what is shown of the record, unless the name is taken out. -/
structure InStep (d : ResourceDefinition) (changes : List RecordChange) (view : String → Option Application)
    (records : String → Option Record) (name : String) : Prop where
  shown : ¬ TakenOut d name changes → view name = (records (d.names.toBacking name)).bind d.shown?
  kept : TakenOut d name changes → (view name).isSome ∧ (records (d.names.toBacking name)).bind d.shown? = none

variable {changes : List RecordChange} {c : RecordChange} {view : String → Option Application}
  {records : String → Option Record}

/-- A change of another record makes no difference. -/
private theorem InStep.snoc_of_ne (h : InStep d changes (d.follow view (changes.map item)) records name)
    (hprefixed : d.names.Prefixed c.reported.name) (hname : c.reported.name ≠ d.names.toBacking name) :
    InStep d (changes ++ [c]) (d.follow view ((changes ++ [c]).map item))
      (Function.update records c.reported.name c.after) name := by
  have htaken : TakenOut d name (changes ++ [c]) ↔ TakenOut d name changes := by
    rw [takenOut_snoc]
    constructor
    · rintro (⟨htaken, -⟩ | hout)
      · exact htaken
      · exact absurd (takesOut_iff.mp hout).1 hname
    · intro htaken
      exact .inl ⟨htaken, fun he => absurd he hname⟩
  have hview : d.follow view ((changes ++ [c]).map item) name = d.follow view (changes.map item) name := by
    rw [follow_snoc]
    cases happ : d.shown? c.reported with
    | none => rfl
    | some app =>
      refine Function.update_of_ne ?_ _ _
      rintro rfl
      rw [ResourceDefinition.name_of_shown? happ, d.names.toBacking_toSynthetic hprefixed] at hname
      exact hname rfl
  have hrecord : Function.update records c.reported.name c.after (d.names.toBacking name) =
      records (d.names.toBacking name) := Function.update_of_ne (Ne.symm hname) _ _
  refine ⟨fun hnot => ?_, fun hkept => ?_⟩
  · rw [hview, hrecord]
    exact h.shown fun ht => hnot (htaken.mpr ht)
  · rw [hview, hrecord]
    exact h.kept (htaken.mp hkept)

/-- A change of the record itself is told, or takes the name out, or leaves nothing to be told. -/
private theorem InStep.snoc_self (h : InStep d changes (d.follow view (changes.map item)) records name)
    (hname : c.reported.name = d.names.toBacking name) (found : records c.reported.name = c.before) :
    InStep d (changes ++ [c]) (d.follow view ((changes ++ [c]).map item))
      (Function.update records c.reported.name c.after) name := by
  have hrecord : Function.update records c.reported.name c.after (d.names.toBacking name) = c.after := by
    rw [hname, Function.update_self]
  cases happ : d.shown? c.reported with
  | some app =>
    have hnot : ¬ TakenOut d name (changes ++ [c]) := by
      rw [takenOut_snoc]
      rintro (⟨-, hc⟩ | hout)
      · cases happ.symm.trans (hc hname)
      · cases happ.symm.trans (takesOut_iff.mp hout).2.2
    have happname : app.name = name := by
      rw [ResourceDefinition.name_of_shown? happ, hname, d.names.toSynthetic_toBacking]
    -- What is told replaces whatever the client had, so a name that was taken out is in step again.
    refine ⟨fun _ => ?_, fun htaken => absurd htaken hnot⟩
    simp only [follow_snoc, happ]
    rw [happname, Function.update_self, hrecord]
  | none =>
    have hview : d.follow view ((changes ++ [c]).map item) = d.follow view (changes.map item) := by
      rw [follow_snoc, happ]
    have hgone : (Function.update records c.reported.name c.after (d.names.toBacking name)).bind d.shown? = none := by
      rw [hrecord]
      exact shown_after_of_not_told happ
    rw [hview]
    by_cases htaken : TakenOut d name changes
    · refine ⟨fun hnot => absurd (takenOut_snoc.mpr (.inl ⟨htaken, fun _ => happ⟩)) hnot, fun _ => ?_⟩
      exact ⟨(h.kept htaken).1, hgone⟩
    · have hbefore : d.follow view (changes.map item) name = c.before.bind d.shown? := by
        rw [h.shown htaken, ← hname, found]
      refine ⟨fun hnot => ?_, fun hkept => ⟨?_, hgone⟩⟩
      · -- Had something been shown before, the change would have taken it out.
        rw [hgone, hbefore, ← Option.not_isSome_iff_eq_none]
        intro hsome
        exact hnot (takenOut_snoc.mpr (.inr (takesOut_iff.mpr ⟨hname, hsome, happ⟩)))
      · rcases takenOut_snoc.mp hkept with ⟨ht, -⟩ | hout
        · exact absurd ht htaken
        · rw [hbefore]
          exact (takesOut_iff.mp hout).2.1

/-- From a list on, a client stays in step with the records, name by name. -/
theorem inStep_of_leads {start : String → Option Record} (h : Leads start changes records)
    (hprefixed : ∀ c ∈ changes, d.names.Prefixed c.reported.name)
    (hview : ∀ name, view name = (start (d.names.toBacking name)).bind d.shown?) (name : String) :
    InStep d changes (d.follow view (changes.map item)) records name := by
  -- A change matters to the name of its own record only, whatever it tells.
  induction h with
  | none => exact ⟨fun _ => hview name, fun h => absurd h takenOut_nil⟩
  | @snoc changes records c _ found ih =>
    have hinStep := ih fun x hx => hprefixed x (by simp [hx])
    by_cases hname : c.reported.name = d.names.toBacking name
    · exact hinStep.snoc_self hname found
    · exact hinStep.snoc_of_ne (hprefixed c (by simp)) hname

/-- Changes of records with the prefix leave only such records. -/
private theorem Leads.prefixed {start : String → Option Record} (h : Leads start changes records)
    (hstart : ∀ name record, start name = some record → d.names.Prefixed name)
    (hprefixed : ∀ c ∈ changes, d.names.Prefixed c.reported.name) :
    ∀ name record, records name = some record → d.names.Prefixed name := by
  induction h with
  | none => exact hstart
  | @snoc changes records c _ found ih =>
    intro name record hrecord
    by_cases hname : name = c.reported.name
    · rw [hname]
      exact hprefixed c (by simp)
    · rw [Function.update_of_ne hname] at hrecord
      exact ih (fun x hx => hprefixed x (by simp [hx])) name record hrecord

end RecordChange

namespace ResourceDefinition

open RecordChange (Leads TakenOut)

section

variable {σ : Type} {b : BackingStore σ} {s s' : σ} {ns : String} {d : ResourceDefinition}

/-- A list of records that all have the prefix, as a map. -/
private theorem list_as_map (h : b.Reads) (hns : ns ≠ "") (hlegible : b.Legible s ns)
    (hprefixed : ∀ name record, b.record? s ns name = some record → d.names.Prefixed name) :
    ∃ list : ApplicationList, (d.perform b (some ns) (.list {}) s).1 = .ok (.many list) ∧
      (list.items.map (·.name)).Nodup ∧
      ∀ name, list.find? name = (b.record? s ns (d.names.toBacking name)).bind d.shown? := by
  obtain ⟨list, shown, hlist, hitems, hlisted, hall⟩ := list_perform (d := d) h hns hlegible {}
  have hnames : ∀ name app, d.shownAt b s ns name = some app → d.names.Prefixed name := by
    intro name app happ
    obtain ⟨record, hrecord, -⟩ := Option.bind_eq_some_iff.mp happ
    exact hprefixed name record hrecord
  refine ⟨list, hlist, ?_, fun name => hlisted.find? hitems hlegible hnames (hall rfl rfl) name⟩
  rw [hitems, List.map_map]
  exact hlisted.names_nodup hlegible fun p hp => hnames _ _ (hlisted.shows p hp)

/-- Following the events of a watch from a list gives what a list gives after the changes, except for the names that a
modification took out of the type; of these the client keeps an application, and the list has none. -/
theorem followed_list_is_in_step (h : b.Reads) (d : ResourceDefinition) (hns : ns ≠ "") (hbefore : b.Legible s ns)
    (hafter : b.Legible s' ns)
    (hprefixed : ∀ name record, b.record? s ns name = some record → d.names.Prefixed name)
    {changes : List RecordChange} (hchanges : ∀ c ∈ changes, d.names.Prefixed c.reported.name)
    (hleads : Leads (b.record? s ns) changes (b.record? s' ns)) :
    ∃ before after : ApplicationList, (d.perform b (some ns) (.list {}) s).1 = .ok (.many before) ∧
      (d.perform b (some ns) (.list {}) s').1 = .ok (.many after) ∧
      (before.items.map (·.name)).Nodup ∧ (after.items.map (·.name)).Nodup ∧
      ∀ name,
        (¬ TakenOut d name changes →
          d.follow before.find? (changes.map RecordChange.item) name = after.find? name) ∧
        (TakenOut d name changes →
          (d.follow before.find? (changes.map RecordChange.item) name).isSome ∧ after.find? name = none) := by
  obtain ⟨before, hlist, hnodup, hfind⟩ := list_as_map (d := d) h hns hbefore hprefixed
  obtain ⟨after, hlist', hnodup', hfound⟩ := list_as_map (d := d) h hns hafter (hleads.prefixed hprefixed hchanges)
  refine ⟨before, after, hlist, hlist', hnodup, hnodup', fun name => ?_⟩
  have hinStep := RecordChange.inStep_of_leads hleads hchanges hfind name
  rw [hfound]
  exact ⟨hinStep.shown, hinStep.kept⟩

private theorem leads_holding {r r' : Release} (h : r.Rereads) (h' : r'.Rereads) (hname : r'.name = r.name) :
    Leads (MemoryStore.backing.record? (MemoryStore.holding ns r) ns)
      [.modified (r.versioned "100").toStored (r'.versioned "100").toStored]
      (MemoryStore.backing.record? (MemoryStore.holding ns r') ns) := by
  have hafter : MemoryStore.backing.record? (MemoryStore.holding ns r') ns =
      Function.update (MemoryStore.backing.record? (MemoryStore.holding ns r) ns) r'.name
        (some (r'.versioned "100").toStored) := by
    funext name
    rw [MemoryStore.record?_holding h']
    by_cases he : r'.name = name
    · rw [if_pos he, he, Function.update_self]
    · rw [if_neg he, Function.update_of_ne (Ne.symm he), MemoryStore.record?_holding h, if_neg (hname ▸ he)]
  rw [hafter]
  refine Leads.snoc (.modified (r.versioned "100").toStored (r'.versioned "100").toStored) .none ?_
  exact (MemoryStore.record?_holding h _).trans (if_pos hname.symm)

private theorem prefixed_holding {r : Release} (h : r.Rereads) (hname : d.names.Prefixed r.name) (name : String)
    (record : Record) (hrecord : MemoryStore.backing.record? (MemoryStore.holding ns r) ns name = some record) :
    d.names.Prefixed name := by
  rw [MemoryStore.record?_holding h, Option.ite_none_right_eq_some] at hrecord
  exact hrecord.1 ▸ hname

end

private theorem prefixed_web_shop : sampleType.names.Prefixed "web-shop" := ⟨"shop", by decide⟩

/-- The release of the sample application in its second version. -/
def updatedShop : Release := sampleType.toRelease { sampleApp with appVersion := "2" } none

/-- A list that was followed through an update is the list from after it. -/
theorem update_is_followed :
    let update := RecordChange.modified (webShop.versioned "100").toStored (updatedShop.versioned "100").toStored
    ∃ before after : ApplicationList,
      (sampleType.perform MemoryStore.backing (some "tenant") (.list {}) (MemoryStore.holding "tenant" webShop)).1 =
        .ok (.many before) ∧
      (sampleType.perform MemoryStore.backing (some "tenant") (.list {}) (MemoryStore.holding "tenant" updatedShop)).1 =
        .ok (.many after) ∧
      sampleType.follow before.find? [update.item] "shop" = after.find? "shop" := by
  intro update
  have hrereads : updatedShop.Rereads := by
    refine sampleType.toRelease_rereads _ ?_ ?_
    · rintro ⟨⟩
    · rintro r ⟨⟩
  have hscope : sampleType.inScope updatedShop = true := sampleType.inScope_toRelease _ none
  have hchanges : ∀ c ∈ [update], sampleType.names.Prefixed c.reported.name := by
    intro c hc
    rw [List.mem_singleton.mp hc]
    exact prefixed_web_shop
  obtain ⟨before, after, hbefore, hafter, -, -, hname⟩ :=
    followed_list_is_in_step MemoryStore.reads_backing sampleType (by decide : "tenant" ≠ "")
      (MemoryStore.legible_holding rereads_webShop) (MemoryStore.legible_holding hrereads)
      (prefixed_holding rereads_webShop prefixed_web_shop) hchanges (leads_holding rereads_webShop hrereads rfl)
  refine ⟨before, after, hbefore, hafter, (hname "shop").1 ?_⟩
  -- The only change is told, for it leaves the release of the type.
  rw [← List.nil_append [update], RecordChange.takenOut_snoc]
  rintro (⟨hnil, -⟩ | ⟨-, -, hnew⟩)
  · exact RecordChange.takenOut_nil hnil
  · rw [shown?_toStored (hrereads.versioned "100"), inScope_versioned, if_pos hscope] at hnew
    cases hnew

/-- A record as the gateway names and labels those of a type, and readable as a release. -/
structure Conforms (d : ResourceDefinition) (record : Record) : Prop where
  name : d.names.Prefixed record.name
  labels : ∀ key value, d.release.labels.get? key = some value →
    record.metadata.labels.bind (·.get? key) = some value
  release : ∃ r, Release.ofRecord record = .ok r

/-- The release of the sample application after somebody has changed its chart. -/
def movedShop : Release :=
  { webShop with spec := { webShop.spec with chart := some { spec := { chart := some "blog" } } } }

private theorem rereads_movedShop : movedShop.Rereads where
  metadata := rereads_webShop.metadata
  spec := {
    chart := by
      rintro t ⟨⟩
      exact ⟨Members.avoids_nil _, Members.avoids_nil _⟩
    values := rereads_webShop.spec.values
    extra := rereads_webShop.spec.extra }
  status := rereads_webShop.status

private theorem conforms_versioned {r : Release} (h : r.Rereads) (hname : r.name = "web-shop") :
    sampleType.Conforms (r.versioned "100").toStored := by
  refine ⟨?_, ?_, _, Release.ofRecord_toStored (h.versioned "100")⟩
  · show sampleType.names.Prefixed r.name
    rw [hname]
    exact prefixed_web_shop
  · rintro key value ⟨⟩

/-- A client that follows a watch keeps an application whose release was given another chart, and a list does not. -/
theorem leaving_the_type_is_not_told :
    let b := MemoryStore.backing
    let s := MemoryStore.holding "tenant" webShop
    let s' := MemoryStore.holding "tenant" movedShop
    let move := RecordChange.modified (webShop.versioned "100").toStored (movedShop.versioned "100").toStored
    b.Legible s "tenant" ∧ b.Legible s' "tenant" ∧
      (∀ name record, b.record? s "tenant" name = some record → sampleType.Conforms record) ∧
      sampleType.Conforms move.reported ∧ Leads (b.record? s "tenant") [move] (b.record? s' "tenant") ∧
      ∃ before after : ApplicationList, (sampleType.perform b (some "tenant") (.list {}) s).1 = .ok (.many before) ∧
        (sampleType.perform b (some "tenant") (.list {}) s').1 = .ok (.many after) ∧
        sampleType.follow before.find? [move.item] "shop" ≠ after.find? "shop" := by
  intro b s s' move
  have hns : "tenant" ≠ "" := by decide
  have hlegible : b.Legible s "tenant" := MemoryStore.legible_holding rereads_webShop
  have hlegible' : b.Legible s' "tenant" := MemoryStore.legible_holding rereads_movedShop
  obtain ⟨before, hbefore, -, hfind⟩ := list_as_map (d := sampleType) MemoryStore.reads_backing hns hlegible
    (prefixed_holding rereads_webShop prefixed_web_shop)
  obtain ⟨after, hafter, -, hfound⟩ := list_as_map (d := sampleType) MemoryStore.reads_backing hns hlegible'
    (prefixed_holding rereads_movedShop prefixed_web_shop)
  refine ⟨hlegible, hlegible', fun name record hrecord => ?_, conforms_versioned rereads_movedShop rfl,
    leads_holding rereads_webShop rereads_movedShop rfl, before, after, hbefore, hafter, ?_⟩
  · rw [MemoryStore.record?_holding rereads_webShop, Option.ite_none_right_eq_some] at hrecord
    cases hrecord.2
    exact conforms_versioned rereads_webShop rfl
  have hkept : sampleType.follow before.find? [move.item] = before.find? := by
    have hmoved : sampleType.shown? move.reported = none :=
      (shown?_toStored (rereads_movedShop.versioned "100")).trans (if_neg (by decide))
    rw [follow, List.filterMap_cons, RecordChange.eventOf?_item, hmoved]
    rfl
  have hshop : before.find? "shop" = some (sampleType.toApplication (webShop.versioned "100")) :=
    (hfind "shop").trans ((shownAt_holding rereads_webShop _).trans (if_pos ⟨rfl, inScope_webShop⟩))
  have hgone : after.find? "shop" = none :=
    (hfound "shop").trans ((shownAt_holding rereads_movedShop _).trans (if_neg fun h => absurd h.2 (by decide)))
  rw [hkept, hshop, hgone]
  simp

end ResourceDefinition

end AppGateway
