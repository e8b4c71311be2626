import AppGateway.Config.Validation
import AppGateway.Proofs.Gateway.Listing
import AppGateway.Proofs.Gateway.Moves
import AppGateway.Proofs.Gateway.Unversioned
import AppGateway.Proofs.Sample

/-!
# Types that keep apart

Two types share a namespace of the store, and nothing but their prefixes and their charts tells their releases apart.  A
run through both of them is compared with the run in which the calls of one type are left out.

* (names) `NameScheme.apart_iff`: two types have no name in common exactly when neither prefix begins with the other;
* (charts) `shown_by_one`: a record is shown by at most one of two types with different charts;
* (relation) `Alike`: up to resource versions, the two runs hold the same under the names of the type, if the prefixes
  are apart, and the same objects that are not of the other type, if the charts are different;
* (step) `Alike.aside`, `own_agree`: calls through the other type keep the relation, and calls through the type itself,
  made in both runs, keep it and give the same;
* (result) `apart_types_do_not_interfere`.  A configuration is not checked for either condition, and
  `validated_types_interfere` shows what comes of it.
-/

namespace AppGateway

namespace NameScheme

variable {s s' : NameScheme}

/-- Neither prefix begins with the other. -/
def Apart (s s' : NameScheme) : Prop :=
  ¬ s.namePrefix.toList <+: s'.namePrefix.toList ∧ ¬ s'.namePrefix.toList <+: s.namePrefix.toList

private theorem toBacking_eq_iff {n n' : String} :
    s.toBacking n = s'.toBacking n' ↔ s.namePrefix.toList ++ n.toList = s'.namePrefix.toList ++ n'.toList := by
  rw [toBacking, toBacking, ← String.toList_inj, String.toList_append, String.toList_append]

private theorem Apart.toBacking_ne (h : s.Apart s') (n n' : String) : s.toBacking n ≠ s'.toBacking n' := by
  intro hname
  have hlist := toBacking_eq_iff.mp hname
  have hprefix : s.namePrefix.toList <+: s'.namePrefix.toList ++ n'.toList := ⟨n.toList, hlist⟩
  rcases List.prefix_or_prefix_of_prefix hprefix (List.prefix_append _ _) with hs | hs
  · exact h.1 hs
  · exact h.2 hs

/-- Two schemes have no name in common exactly when neither prefix begins with the other. -/
theorem apart_iff : s.Apart s' ↔ ∀ n n', s.toBacking n ≠ s'.toBacking n' := by
  refine ⟨Apart.toBacking_ne, fun h => ⟨?_, ?_⟩⟩
  · rintro ⟨rest, hrest⟩
    refine h (String.ofList rest) "" (toBacking_eq_iff.mpr ?_)
    simp [hrest]
  · rintro ⟨rest, hrest⟩
    refine h "" (String.ofList rest) (toBacking_eq_iff.mpr ?_)
    simp [hrest]

end NameScheme

namespace ResourceDefinition

variable {d d' : ResourceDefinition} {name : String}

/-! ### Charts -/

/-- A release is of one chart. -/
private theorem chart_eq_of_inScope {r : Release} (h : d.inScope r = true) (h' : d'.inScope r = true) :
    d.release.chart = d'.release.chart := by
  obtain ⟨chart, source, hchart, hsource, hname, hkind, hsourceName, hns⟩ := inScope_iff.mp h
  obtain ⟨chart', source', hchart', hsource', hname', hkind', hsourceName', hns'⟩ := inScope_iff.mp h'
  cases hchart.symm.trans hchart'
  cases hsource.symm.trans hsource'
  calc d.release.chart = ⟨d.release.chart.name, ⟨_, d.release.chart.source.name, _⟩⟩ := rfl
    _ = d'.release.chart := by
      rw [Option.some.inj (hname.symm.trans hname'), Option.some.inj (hkind.symm.trans hkind'),
        Option.some.inj (hsourceName.symm.trans hsourceName'), Option.some.inj (hns.symm.trans hns')]

private theorem not_inScope_of_ne {r : Release} (hchart : d'.release.chart ≠ d.release.chart) (h : d.inScope r = true) :
    d'.inScope r = false := by
  rw [Bool.eq_false_iff]
  exact fun h' => hchart (chart_eq_of_inScope h' h)

/-- A record is shown by at most one of two types with different charts. -/
theorem shown_by_one (hchart : d.release.chart ≠ d'.release.chart) (record : Record) :
    d.shown? record = none ∨ d'.shown? record = none := by
  rw [shown?, shown?]
  cases Release.ofRecord record with
  | error fault => exact .inl rfl
  | ok r =>
    cases hscope : d.inScope r with
    | false => exact .inl (by simp [hscope])
    | true =>
      have hother : d'.inScope r = false := not_inScope_of_ne hchart.symm hscope
      exact .inr (by simp [hother])

/-- A list shows nothing of the objects of a type with another chart. -/
private theorem seen_filter (hchart : d'.release.chart ≠ d.release.chart) (values : List Json) :
    d.seen values = d.seen (values.filter fun j => !d'.owns j) := by
  induction values with
  | nil => rfl
  | cons j rest ih =>
    cases howns : d'.owns j with
    | false => rw [List.filter_cons_of_pos (by simp [howns]), seen_cons, seen_cons, ih]
    | true =>
      obtain ⟨app, happ⟩ := Option.isSome_iff_exists.mp howns
      obtain ⟨record, hrecord, hshown⟩ := Option.bind_eq_some_iff.mp happ
      have hnone : d.shown? record = none := by
        rcases shown_by_one hchart record with h | h
        · cases h.symm.trans hshown
        · exact h
      have hseen : d.seenOf j = some none := by rw [seenOf, hrecord, Option.map_some, hnone, Option.map_none]
      rw [List.filter_cons_of_neg (by simp [howns]), seen_cons, ← ih, hseen]
      simp

/-! ### Two runs -/

/-- The entries of a namespace that are not of a type. -/
def others (d : ResourceDefinition) (m : Directory Json) : List (String × Json) :=
  m.entries.filter fun e => !d.owns e.2

private theorem mem_others_iff {m : Directory Json} {key : String} {j : Json} :
    (key, j) ∈ d.others m ↔ m.find? key = some j ∧ d.owns j = false := by
  rw [others, List.mem_filter, Bool.not_eq_true']
  exact and_congr_left fun _ => ⟨m.find?_of_mem, Directory.mem_of_lookup⟩

/-- A call has failed because what it asks for is not there. -/
def NotFound (result : Except Failure ApplicationReply) : Prop :=
  ∃ failure, result = .error failure ∧ failure.code = 404

/-- A write of a type goes unnoticed under the names of a type with a prefix apart. -/
private theorem Moved.find?_eq {m m' : Directory Json} (h : d.Moved m m') (hapart : d.names.Apart d'.names)
    (n : String) : m'.find? (d'.names.toBacking n) = m.find? (d'.names.toBacking n) := by
  cases h with
  | kept => rfl
  | put name j => rw [Directory.find?_set, if_neg (hapart.toBacking_ne name n).symm]
  | removed name => rw [Directory.find?_erase, if_neg (hapart.toBacking_ne name n).symm]

/-- A write of a type goes unnoticed among the objects that are not of the type. -/
private theorem Moved.others_eq {m m' : Directory Json} (h : d.Moved m m') : d.others m' = d.others m := by
  cases h with
  | kept => rfl
  | put name j hj hold => exact m.filter_entries_set (by simp [hj]) fun old hfind => by simp [hold old hfind]
  | removed name old hfind hold =>
    refine m.filter_entries_erase fun old' hfind' => ?_
    cases hfind.symm.trans hfind'
    simp [hold]

end ResourceDefinition

section

variable {σ : Type} {b : BackingStore σ} {issued : σ → String → Prop}
  {select : Option Selector → Option Selector → Json → Bool} {d d' : ResourceDefinition} {ns : String} {s s' : σ}

/-- Two states hold the same for a type: under its names, if another type has a prefix apart, and among the objects that
are not of this other type, if that has another chart. -/
structure Alike (b : BackingStore σ) (d d' : ResourceDefinition) (ns : String) (s s' : σ) : Prop where
  found : d'.names.Apart d.names → ∀ n,
    (b.find? s ns (d.names.toBacking n) = none ∧ b.find? s' ns (d.names.toBacking n) = none) ∨
      ∃ j j', b.find? s ns (d.names.toBacking n) = some j ∧ b.find? s' ns (d.names.toBacking n) = some j' ∧
        SameButVersion j j'
  others : d'.release.chart ≠ d.release.chart →
    List.Forall₂ (fun e e' => e.1 = e'.1 ∧ SameButVersion e.2 e'.2)
      (d'.others (b.contents s ns)) (d'.others (b.contents s' ns))

namespace Alike

private theorem refl (s : σ) : Alike b d d' ns s s where
  found _ n := by
    cases b.find? s ns (d.names.toBacking n) with
    | none => exact .inl ⟨rfl, rfl⟩
    | some j => exact .inr ⟨j, j, rfl, rfl, .inl rfl⟩
  others _ := List.forall₂_same.mpr fun _ _ => ⟨rfl, .inl rfl⟩

/-- A call that writes through the other type is not noticed. -/
theorem aside (h : b.Faithful issued) {call : ApplicationCall} (hcall : call.Writes) (halike : Alike b d d' ns s s') :
    Alike b d d' ns (d'.perform b (some ns) call s).2 s' := by
  have hmoved := ResourceDefinition.perform_moved h d' ns hcall s
  refine ⟨fun hapart n => ?_, fun hchart => ?_⟩
  · rw [BackingStore.find?, hmoved.find?_eq hapart]
    exact halike.found hapart n
  · rw [hmoved.others_eq]
    exact halike.others hchart

private theorem of_contents (halike : Alike b d d' ns s s') {t t' : σ} (ht : b.contents t ns = b.contents s ns)
    (ht' : b.contents t' ns = b.contents s' ns) : Alike b d d' ns t t' where
  found hapart n := by
    rw [BackingStore.find?, ht, BackingStore.find?, ht']
    exact halike.found hapart n
  others hchart := by
    rw [ht, ht']
    exact halike.others hchart

/-- An object that is not of the other type, which has another chart, is there in both states. -/
private theorem find?_of_mem_others (halike : Alike b d d' ns s s') (hchart : d'.release.chart ≠ d.release.chart)
    {key : String} {j : Json} (hj : (key, j) ∈ d'.others (b.contents s ns)) :
    b.find? s ns key = some j ∧ ∃ j', b.find? s' ns key = some j' ∧ SameButVersion j j' := by
  refine ⟨(ResourceDefinition.mem_others_iff.mp hj).1, ?_⟩
  have hothers := halike.others hchart
  suffices h : ∃ j', (key, j') ∈ d'.others (b.contents s' ns) ∧ SameButVersion j j' by
    obtain ⟨j', hj', hsame⟩ := h
    exact ⟨j', (ResourceDefinition.mem_others_iff.mp hj').1, hsame⟩
  generalize d'.others (b.contents s ns) = entries, d'.others (b.contents s' ns) = entries' at hothers hj ⊢
  induction hothers with
  | nil => cases hj
  | @cons e e' _ _ he _ ih =>
    rcases List.mem_cons.mp hj with rfl | hj
    · exact ⟨e'.2, List.mem_cons.mpr (.inl (Prod.ext he.1 rfl)), he.2⟩
    · obtain ⟨j', hj', hsame⟩ := ih hj
      exact ⟨j', List.mem_cons_of_mem _ hj', hsame⟩

private theorem symm (halike : Alike b d d' ns s s') : Alike b d d' ns s' s where
  found hapart n := (halike.found hapart n).imp And.symm fun ⟨j, j', hj, hj', hsame⟩ => ⟨j', j, hj', hj, hsame.symm⟩
  others hchart := ((halike.others hchart).imp fun _ _ he => ⟨he.1.symm, he.2.symm⟩).flip

/-- Nothing is got where there is nothing, or an object of a type with another chart. -/
private theorem get_notFound (h : b.Uniform issued select) (hns : ns ≠ "") (hchart : d'.release.chart ≠ d.release.chart)
    {name : String} (hothers : ∀ j, (d.names.toBacking name, j) ∉ d'.others (b.contents s ns)) :
    ResourceDefinition.NotFound (d.perform b (some ns) (.get name) s).1 := by
  rw [ResourceDefinition.perform_get b hns]
  cases hfind : b.find? s ns (d.names.toBacking name) with
  | none =>
    obtain ⟨⟨refusal, hcode, hreply⟩, -⟩ := h.get_missing hfind
    rw [hreply, d.fetched_of_missing hcode]
    exact ⟨_, rfl, rfl⟩
  | some j =>
    have howns : d'.owns j = true :=
      eq_true_of_ne_false fun hforeign => hothers j (ResourceDefinition.mem_others_iff.mpr ⟨hfind, hforeign⟩)
    obtain ⟨app, happ⟩ := Option.isSome_iff_exists.mp howns
    obtain ⟨record, hrecord, hshown⟩ := Option.bind_eq_some_iff.mp happ
    obtain ⟨r, hr, hscope, -⟩ := ResourceDefinition.shown?_eq_some.mp hshown
    rw [(h.get_present hfind).1, MemoryStore.asRecord_ok, hrecord,
      d.fetched_of_out_of_scope hr (ResourceDefinition.not_inScope_of_ne hchart.symm hscope)]
    exact ⟨_, rfl, rfl⟩

/-- A get gives the same of objects that are the same but for their versions. -/
theorem get_alike (h : b.Uniform issued select) (hns : ns ≠ "") {name : String} {j j' : Json}
    (hs : b.find? s ns (d.names.toBacking name) = some j) (hs' : b.find? s' ns (d.names.toBacking name) = some j')
    (hj : SameButVersion j j') :
    (d.perform b (some ns) (.get name) s).1.map ApplicationReply.unversioned =
      (d.perform b (some ns) (.get name) s').1.map ApplicationReply.unversioned := by
  rw [ResourceDefinition.perform_get b hns, ResourceDefinition.perform_get b hns, (h.get_present hs).1,
    (h.get_present hs').1]
  exact ResourceDefinition.fetched_alike hj .get name

private theorem own_get (h : b.Uniform issued select) (hns : ns ≠ "") (halike : Alike b d d' ns s s') (name : String) :
    (d'.names.Apart d.names → (d.perform b (some ns) (.get name) s).1.map ApplicationReply.unversioned =
        (d.perform b (some ns) (.get name) s').1.map ApplicationReply.unversioned) ∧
      Alike b d d' ns (d.perform b (some ns) (.get name) s).2 (d.perform b (some ns) (.get name) s').2 := by
  have hkept (s : σ) : b.contents (d.perform b (some ns) (.get name) s).2 ns = b.contents s ns := by
    rw [ResourceDefinition.perform_get b hns]
    exact h.toFaithful.contents_after_get s ns (d.names.toBacking name)
  refine ⟨fun hapart => ?_, halike.of_contents (hkept s) (hkept s')⟩
  rcases halike.found hapart name with ⟨hs, hs'⟩ | ⟨j, j', hs, hs', hj⟩
  · rw [ResourceDefinition.perform_get b hns, ResourceDefinition.perform_get b hns, h.get_missing_alike hs hs']
  · exact get_alike h hns hs hs' hj

/-- If the charts are different, a get gives the same in both states, or nothing in both. -/
private theorem own_get_of_charts (h : b.Uniform issued select) (hns : ns ≠ "") (halike : Alike b d d' ns s s')
    (hchart : d'.release.chart ≠ d.release.chart) (name : String) :
    (d.perform b (some ns) (.get name) s).1.map ApplicationReply.unversioned =
        (d.perform b (some ns) (.get name) s').1.map ApplicationReply.unversioned ∨
      ResourceDefinition.NotFound (d.perform b (some ns) (.get name) s).1 ∧
        ResourceDefinition.NotFound (d.perform b (some ns) (.get name) s').1 := by
  by_cases hs : ∃ j, (d.names.toBacking name, j) ∈ d'.others (b.contents s ns)
  · obtain ⟨j, hj⟩ := hs
    obtain ⟨hs, j', hs', hsame⟩ := halike.find?_of_mem_others hchart hj
    exact .inl (get_alike h hns hs hs' hsame)
  by_cases hs' : ∃ j, (d.names.toBacking name, j) ∈ d'.others (b.contents s' ns)
  · obtain ⟨j', hj'⟩ := hs'
    obtain ⟨hs', j, hs, hsame⟩ := halike.symm.find?_of_mem_others hchart hj'
    exact .inl (get_alike h hns hs hs' hsame.symm)
  exact .inr ⟨get_notFound h hns hchart (not_exists.mp hs), get_notFound h hns hchart (not_exists.mp hs')⟩

/-- What is listed, up to versions, is what is seen of the objects that are not of a type with another chart. -/
private theorem list_unversioned (h : b.Uniform issued select) (hns : ns ≠ "")
    (hchart : d'.release.chart ≠ d.release.chart) (options : ListOptions) (s : σ) :
    (d.perform b (some ns) (.list options) s).1.map ApplicationReply.unversioned =
      d.seenReply ns
        (d.seen (((d'.others (b.contents s ns)).map (·.2)).filter (select options.labels options.fields))) := by
  obtain ⟨⟨version, hreply⟩, -⟩ := h.list_selected s ns options.labels options.fields
  have hothers : ((((b.contents s ns).entries.map (·.2)).filter (select options.labels options.fields)).filter
      fun j => !d'.owns j) =
        ((d'.others (b.contents s ns)).map (·.2)).filter (select options.labels options.fields) := by
    rw [List.filter_comm, ResourceDefinition.others, List.filter_map]
    rfl
  rw [ResourceDefinition.perform_list b hns, hreply, Except.map_map _ ApplicationReply.many,
    ResourceDefinition.listed_unversioned, ResourceDefinition.seen_filter hchart, hothers]

private theorem own_list (h : b.Uniform issued select) (hns : ns ≠ "") (halike : Alike b d d' ns s s')
    (options : ListOptions) :
    (d'.release.chart ≠ d.release.chart → (d.perform b (some ns) (.list options) s).1.map ApplicationReply.unversioned =
        (d.perform b (some ns) (.list options) s').1.map ApplicationReply.unversioned) ∧
      Alike b d d' ns (d.perform b (some ns) (.list options) s).2 (d.perform b (some ns) (.list options) s').2 := by
  have hkept (s : σ) : b.contents (d.perform b (some ns) (.list options) s).2 ns = b.contents s ns := by
    rw [ResourceDefinition.perform_list b hns]
    exact (h.list_selected s ns options.labels options.fields).2
  refine ⟨fun hchart => ?_, halike.of_contents (hkept s) (hkept s')⟩
  have hselected : List.Forall₂ SameButVersion
      (((d'.others (b.contents s ns)).map (·.2)).filter (select options.labels options.fields))
      (((d'.others (b.contents s' ns)).map (·.2)).filter (select options.labels options.fields)) := by
    refine List.rel_filter (fun j j' hj => ?_) ?_
    · show select options.labels options.fields j = true ↔ select options.labels options.fields j' = true
      rw [hj.select_eq h]
    · rw [List.forall₂_map_left_iff, List.forall₂_map_right_iff]
      exact (halike.others hchart).imp fun _ _ he => he.2
  rw [list_unversioned h hns hchart, list_unversioned h hns hchart, ResourceDefinition.seen_alike hselected]

/-- A release of a type that is stored in both states, where nothing was, leaves them alike. -/
private theorem put (halike : Alike b d d' ns s s') {r : Release} (hr : r.settled.Rereads) (hscope : d.inScope r = true)
    {name : String} (hs : b.find? s ns (d.names.toBacking name) = none)
    (hs' : b.find? s' ns (d.names.toBacking name) = none) {v v' : String} {t t' : σ}
    (ht : b.contents t ns = (b.contents s ns).set (d.names.toBacking name) (r.versioned v).toJson)
    (ht' : b.contents t' ns = (b.contents s' ns).set (d.names.toBacking name) (r.versioned v').toJson) :
    Alike b d d' ns t t' where
  found hapart n := by
    rw [BackingStore.find?, ht, BackingStore.find?, ht', Directory.find?_set, Directory.find?_set]
    by_cases hn : d.names.toBacking n = d.names.toBacking name
    · rw [if_pos hn, if_pos hn]
      exact .inr ⟨_, _, rfl, rfl, .inr ⟨r, hr, v, v', rfl, rfl⟩⟩
    · rw [if_neg hn, if_neg hn]
      exact halike.found hapart n
  others hchart := by
    have hforeign (v : String) : d'.owns (r.versioned v).toJson = false := by
      rw [ResourceDefinition.owns_settled (Release.settled_versioned_rereads hr v), d'.inScope_versioned]
      exact ResourceDefinition.not_inScope_of_ne hchart hscope
    have hadded {m m' : Directory Json} {v : String} (hm : m.find? (d.names.toBacking name) = none)
        (hm' : m' = m.set (d.names.toBacking name) (r.versioned v).toJson) :
        d'.others m' = d'.others m ++ [(d.names.toBacking name, (r.versioned v).toJson)] := by
      rw [hm', ResourceDefinition.others, Directory.entries_set_of_none m _ hm, List.filter_append,
        List.filter_cons_of_pos (by simp [hforeign v])]
      rfl
    -- The new object comes last in both states.
    rw [hadded hs ht, hadded hs' ht']
    refine List.rel_append (halike.others hchart) ?_
    exact .cons ⟨rfl, .inr ⟨r, hr, v, v', rfl, rfl⟩⟩ .nil

private theorem own_create (h : b.Uniform issued select) (hns : ns ≠ "") (hapart : d'.names.Apart d.names)
    (halike : Alike b d d' ns s s') (app : Application) :
    (d.perform b (some ns) (.create app) s).1.map ApplicationReply.unversioned =
        (d.perform b (some ns) (.create app) s').1.map ApplicationReply.unversioned ∧
      Alike b d d' ns (d.perform b (some ns) (.create app) s).2 (d.perform b (some ns) (.create app) s').2 := by
  rcases d.createdRecord_cases ns app with ⟨failure, hrecord⟩ | ⟨name, hrecord⟩
  · have hperform := ResourceDefinition.perform_create_of_error b hns hrecord
    rw [hperform s, hperform s']
    exact ⟨rfl, halike⟩
  · obtain ⟨r, hr⟩ : ∃ r, d.toRelease (app.addressedAs name ns) none = r := ⟨_, rfl⟩
    have hrereads : r.settled.Rereads := hr ▸ d.toRelease_settled_rereads _ (by simp)
    have hscope : d.inScope r = true := hr ▸ d.inScope_toRelease _ _
    have hname : r.toStored.name = d.names.toBacking name := hr ▸ rfl
    rw [hr] at hrecord
    have hperform := ResourceDefinition.perform_create_of_ok b hns hrecord
    rw [hperform s, hperform s']
    rcases halike.found hapart name with ⟨hs, hs'⟩ | ⟨j, j', hs, hs', -⟩
    · rw [← hname] at hs hs'
      obtain ⟨v, -, -, -, hreply, hcontents⟩ := h.create_absent hs
      obtain ⟨v', -, -, -, hreply', hcontents'⟩ := h.create_absent hs'
      rw [hname, Release.withVersion_toStored] at hcontents hcontents'
      rw [hname] at hs hs'
      refine ⟨?_, halike.put hrereads hscope hs hs' hcontents hcontents'⟩
      rw [hreply, hreply', Release.withVersion_toStored, Release.withVersion_toStored,
        d.projected_settled (Release.settled_versioned_rereads hrereads v),
        d.projected_settled (Release.settled_versioned_rereads hrereads v')]
      exact congrArg (Except.ok ∘ ApplicationReply.one) (ResourceDefinition.unversioned_versioned r.settled v v')
    · rw [← hname] at hs hs'
      rw [h.create_present_alike hs hs']
      exact ⟨rfl, halike.of_contents (h.create_present hs).2 (h.create_present hs').2⟩

end Alike

end

/-! ### Runs -/

/-- A call of a run through a type and another one. -/
inductive MixedCall where
  | own (call : ApplicationCall)
  | aside (call : ApplicationCall)

namespace MixedCall

/-- Whether a call is made through the type itself. -/
def isOwn : MixedCall → Bool
  | .own _ => true
  | .aside _ => false

/-- The type itself creates, gets and lists; the other one creates, updates and deletes. -/
def Fit : MixedCall → Prop
  | .own (.create _) | .own (.get _) | .own (.list _) => True
  | .own _ => False
  | .aside call => call.Writes

end MixedCall

namespace ResourceDefinition

variable {σ : Type}

/-- The calls that a run makes through a type, and what they give; calls through another type come in between. -/
def results (b : BackingStore σ) (d d' : ResourceDefinition) (ns : String) :
    List MixedCall → σ → List (ApplicationCall × Except Failure ApplicationReply)
  | [], _ => []
  | .own call :: rest, s =>
    (call, (d.perform b (some ns) call s).1) :: results b d d' ns rest (d.perform b (some ns) call s).2
  | .aside call :: rest, s => results b d d' ns rest (d'.perform b (some ns) call s).2

/-- What keeps the result of a call through a type from depending on another type: another chart in the case of a list,
a prefix apart in the case of a call by name. -/
def KeptApart (d d' : ResourceDefinition) : ApplicationCall → Prop
  | .list _ => d'.release.chart ≠ d.release.chart
  | _ => d'.names.Apart d.names

/-- Two results of one call are the same up to versions, if the types are kept apart for it.  Different charts are
enough for a get to give the same application, or none in both cases, where only the wording may differ. -/
def AgreeIfApart (d d' : ResourceDefinition) (p q : ApplicationCall × Except Failure ApplicationReply) : Prop :=
  p.1 = q.1 ∧ (KeptApart d d' p.1 → p.2.map ApplicationReply.unversioned = q.2.map ApplicationReply.unversioned) ∧
    (d'.release.chart ≠ d.release.chart → ∀ name, p.1 = .get name →
      p.2.map ApplicationReply.unversioned = q.2.map ApplicationReply.unversioned ∨ NotFound p.2 ∧ NotFound q.2)

variable {b : BackingStore σ} {issued : σ → String → Prop} {select : Option Selector → Option Selector → Json → Bool}
  {d d' : ResourceDefinition} {s s' : σ}

/-- A call through the type itself, made in states that are alike, gives the same and leaves them alike. -/
theorem own_agree (h : b.Uniform issued select) (ns : String) {call : ApplicationCall} (hfit : (MixedCall.own call).Fit)
    (hcreate : d'.names.Apart d.names ∨ ∀ app, call ≠ .create app) (halike : Alike b d d' ns s s') :
    AgreeIfApart d d' (call, (d.perform b (some ns) call s).1) (call, (d.perform b (some ns) call s').1) ∧
      Alike b d d' ns (d.perform b (some ns) call s).2 (d.perform b (some ns) call s').2 := by
  by_cases hns : ns = ""
  · have hrun := d.namespaceRequired_run (show (some ns).getD "" = "" from hns) call
    have hperform (s : σ) : d.perform b (some ns) call s = (.error (.namespaceRequired call.operation), s) := by
      rw [perform, hrun]
      rfl
    rw [hperform, hperform]
    exact ⟨⟨rfl, fun _ => rfl, fun _ _ _ => .inl rfl⟩, halike⟩
  · cases call with
    | create app =>
      have hapart : d'.names.Apart d.names := hcreate.resolve_right fun hnone => hnone app rfl
      obtain ⟨hreply, hafter⟩ := halike.own_create h hns hapart app
      exact ⟨⟨rfl, fun _ => hreply, fun _ _ hget => ApplicationCall.noConfusion hget⟩, hafter⟩
    | get name =>
      obtain ⟨hreply, hafter⟩ := halike.own_get h hns name
      exact ⟨⟨rfl, hreply, fun hchart _ _ => halike.own_get_of_charts h hns hchart name⟩, hafter⟩
    | list options =>
      obtain ⟨hreply, hafter⟩ := halike.own_list h hns options
      exact ⟨⟨rfl, hreply, fun _ _ hget => ApplicationCall.noConfusion hget⟩, hafter⟩
    | _ => exact hfit.elim

private theorem results_agree (h : b.Uniform issued select) {ns : String} {calls : List MixedCall}
    (hfit : ∀ c ∈ calls, c.Fit)
    (hcreate : d'.names.Apart d.names ∨ ∀ app, .own (.create app) ∉ calls) (halike : Alike b d d' ns s s') :
    List.Forall₂ (AgreeIfApart d d') (results b d d' ns calls s)
      (results b d d' ns (calls.filter MixedCall.isOwn) s') := by
  -- The runs start in states that are alike; a call through the other type is a step of the first run alone.
  induction calls generalizing s s' with
  | nil => exact .nil
  | cons c rest ih =>
    have hc : c.Fit := hfit c List.mem_cons_self
    have hrest : ∀ c ∈ rest, c.Fit := fun c hc => hfit c (List.mem_cons_of_mem _ hc)
    have hcreate' : d'.names.Apart d.names ∨ ∀ app, .own (.create app) ∉ rest :=
      hcreate.imp_right fun hnone app happ => hnone app (List.mem_cons_of_mem _ happ)
    cases c with
    | aside call => exact ih hrest hcreate' (halike.aside h.toFaithful hc)
    | own call =>
      have hcall : d'.names.Apart d.names ∨ ∀ app, call ≠ .create app :=
        hcreate.imp_right fun hnone app happ => hnone app (happ ▸ List.mem_cons_self)
      obtain ⟨hagree, hafter⟩ := own_agree h ns hc hcall halike
      exact .cons hagree (ih hrest hcreate' hafter)

/-- Creations, updates and deletions through another type change nothing, up to versions, of what a type gets and
creates, if neither prefix begins with the other, and nothing of what it lists, if the charts are different.  Only when
the type itself creates do its lists, too, need prefixes apart: a creation that fails is missing from them.  Where only
the charts are different, a get still gives the same application, or none with and without these calls.  Types with
different charts never show the same record, and types have no name in common exactly if their prefixes are apart. -/
theorem apart_types_do_not_interfere (h : b.Uniform issued select) (d d' : ResourceDefinition) (ns : String)
    {calls : List MixedCall} (hfit : ∀ c ∈ calls, c.Fit)
    (hcreate : d'.names.Apart d.names ∨ ∀ app, .own (.create app) ∉ calls) (s : σ) :
    List.Forall₂ (AgreeIfApart d d') (results b d d' ns calls s)
        (results b d d' ns (calls.filter MixedCall.isOwn) s) ∧
      (d'.release.chart ≠ d.release.chart → ∀ record, d'.shown? record = none ∨ d.shown? record = none) ∧
      (d'.names.Apart d.names ↔ ∀ name' name, d'.names.toBacking name' ≠ d.names.toBacking name) :=
  ⟨results_agree h hfit hcreate (.refl s), shown_by_one, NameScheme.apart_iff⟩

/-- A type that has nothing to do with the sample type. -/
def blogType : ResourceDefinition where
  application := { kind := "Blog", plural := "blogs" }
  release := { namePrefix := "blog-", chart := { sampleType.release.chart with name := "blog" } }

/-- An application of this type. -/
def sampleBlog : Application where
  metadata := { name := some "news" }
  appVersion := "1"

/-- An empty store. -/
def emptyStore : {s : MemoryStore // s.Sound} := ⟨{}, MemoryStore.sound_empty⟩

/-- A run in which an application of the sample type comes and goes. -/
def blogRun : List MixedCall :=
  [.aside (.create sampleApp), .own (.create sampleBlog), .own (.list {}), .aside (.delete "shop"), .own (.get "news")]

/-- What is created is listed alone, and got as it was created, whatever is created and deleted besides. -/
theorem blogs_are_undisturbed :
    let news := (blogType.toApplication (blogType.toRelease (sampleBlog.addressedAs "news" "tenant") none)).unversioned
    sampleType.names.Apart blogType.names ∧ (∀ c ∈ blogRun, c.Fit) ∧
      (results MemoryStore.backing blogType sampleType "tenant" blogRun emptyStore).map
          (fun p => p.2.map ApplicationReply.unversioned) =
        [.ok (.one news), .ok (.many (.ofItems "Blog" none [news])), .ok (.one news)] := by
  intro news
  have hapart : sampleType.names.Apart blogType.names := by
    refine ⟨?_, ?_⟩ <;> decide
  have hfit : ∀ c ∈ blogRun, c.Fit := by
    simp [blogRun, MixedCall.Fit, ApplicationCall.Writes]
  have hcharts : sampleType.release.chart ≠ blogType.release.chart := by decide
  obtain ⟨hagree, -, -⟩ :=
    apart_types_do_not_interfere MemoryStore.uniform_backing blogType sampleType "tenant" hfit (.inl hapart) emptyStore
  refine ⟨hapart, hfit, ?_⟩
  have halone : (results MemoryStore.backing blogType sampleType "tenant" (blogRun.filter MixedCall.isOwn)
      emptyStore).map (fun p => p.2.map ApplicationReply.unversioned) =
        [.ok (.one news), .ok (.many (.ofItems "Blog" none [news])), .ok (.one news)] := rfl
  rw [← halone, ← List.forall₂_eq_eq_eq, List.forall₂_map_left_iff, List.forall₂_map_right_iff]
  refine hagree.imp fun p q hpq => hpq.2.1 ?_
  cases p.1 with
  | list options => exact hcharts
  | _ => exact hapart

/-- A type with the chart of the sample type. -/
def sharedChartType : ResourceDefinition where
  application := { kind := "Site", plural := "sites" }
  release := { sampleType.release with namePrefix := "site-" }

/-- A type with a prefix that begins with that of the sample type. -/
def nestedPrefixType : ResourceDefinition where
  application := { kind := "Shop", plural := "shops" }
  release := { namePrefix := "web-shop-", chart := { sampleType.release.chart with name := "shop" } }

/-- A configuration of these types. -/
def overlappingConfig : ResourceConfig := ⟨[sampleType, sharedChartType, nestedPrefixType]⟩

/-- A valid configuration may have types with one chart, of which one lists what the other creates, and types with
prefixes that overlap, of which one cannot create what the other has taken the name of. -/
theorem validated_types_interfere :
    let undisturbed (d : ResourceDefinition) (calls : List MixedCall) :=
      (results MemoryStore.backing d sampleType "tenant" calls emptyStore).map
          (fun p => p.2.map ApplicationReply.unversioned) =
        (results MemoryStore.backing d sampleType "tenant" (calls.filter MixedCall.isOwn) emptyStore).map
          (fun p => p.2.map ApplicationReply.unversioned)
    overlappingConfig.validate = .ok () ∧
      ¬ undisturbed sharedChartType [.aside (.create sampleApp), .own (.list {})] ∧
      ¬ undisturbed nestedPrefixType [
        .aside (.create { sampleApp with metadata := { name := some "shop-blue" } }),
        .own (.create { sampleApp with metadata := { name := some "blue" } })] := by
  intro undisturbed
  refine ⟨rfl, fun hlist => ?_, fun hcreate => ?_⟩
  · have hempty := congrArg (List.map fun r => r.toOption.map (· == .many (.ofItems "Site" none []))) hlist
    revert hempty
    decide +kernel
  · have hsuccess := congrArg (List.map Except.toBool) hcreate
    revert hsuccess
    decide +kernel

end ResourceDefinition

end AppGateway
