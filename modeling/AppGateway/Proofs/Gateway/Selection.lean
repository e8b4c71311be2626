import AppGateway.Proofs.Gateway.ForeignContent
import AppGateway.Proofs.Gateway.Request
import AppGateway.Proofs.Http.Target
import AppGateway.Proofs.Sample

/-!
# What a watch selects

A selector is read as a list of requirements, each a label with the value that it has to have.  Joining two selectors
joins their requirements, whatever the texts are, and the selector written for a map of labels requires these labels and
nothing else, as long as no comma and no equals sign stands in them.

* (reading) `Selector.requirements_ofLabels`, `Selector.requirements_both`;
* (watching) `watch_calls`, `selects_sent`: what the selector of a watch asks for;
* (writing) `configured_of_mem_create`, `configured_of_mem_update`: what is written for an application has the configured
  labels;
* (main result) `watch_selects_configured_and_asked`.
-/

namespace AppGateway

namespace Text

/-- A text is split at a separator into the parts before it and the parts after it. -/
private theorem splitOn_append (separator : Char) (before after : List Char) :
    splitOn separator (before ++ separator :: after) = splitOn separator before ++ splitOn separator after := by
  simp only [splitOn_eq, List.splitOn_eq_splitOnP]
  exact List.splitOnP_append_cons before after (by simp)

end Text

/-- No comma and no equals sign stands in a label. -/
def StringMap.Plain (m : StringMap) : Prop :=
  ∀ e ∈ m.entries, (',' ∉ e.1.toList ∧ '=' ∉ e.1.toList) ∧ ',' ∉ e.2.toList ∧ '=' ∉ e.2.toList

instance (m : StringMap) : Decidable m.Plain := List.decidableBAll _ m.entries

namespace Selector

variable {a b : Selector} {labels m : StringMap}

/-- The requirement in a part of a selector: a key and a value, with the first equals sign between them. -/
def requirement (part : List Char) : String × String :=
  (String.ofList (part.takeWhile (· ≠ '=')), String.ofList ((part.dropWhile (· ≠ '=')).drop 1))

/-- The requirements of a selector, in its parts between commas; an empty one has none. -/
def requirements (s : Selector) : List (String × String) :=
  if s.isEmpty then [] else (Text.splitOn ',' s.toList).map requirement

/-- Labels satisfy a selector when they have every pair that it requires. -/
def Selects (s : Selector) (labels : StringMap) : Prop := ∀ e ∈ s.requirements, labels.get? e.1 = some e.2

instance (s : Selector) (labels : StringMap) : Decidable (s.Selects labels) := List.decidableBAll _ s.requirements

private theorem requirement_entry {key : String} (value : String) (h : '=' ∉ key.toList) :
    requirement (key.toList ++ '=' :: value.toList) = (key, value) := by
  have hkey : ∀ c ∈ key.toList, (decide (c ≠ '=')) = true := fun c hc =>
    decide_eq_true fun heq => h (heq ▸ hc)
  rw [requirement, List.takeWhile_append_of_pos hkey, List.dropWhile_append_of_pos hkey]
  simp

private theorem requirements_empty : requirements "" = [] := rfl

/-- The selector of labels requires exactly these. -/
theorem requirements_ofLabels (h : m.Plain) : (ofLabels m).requirements = m.entries := by
  obtain ⟨entries, hsorted⟩ := m
  cases entries with
  | nil => rfl
  | cons e rest =>
    let part (e : String × String) : List Char := e.1.toList ++ '=' :: e.2.toList
    have hparts : (e :: rest).map (String.toList ∘ fun e => e.1 ++ "=" ++ e.2) = (e :: rest).map part := by
      simp [part]
    have hsplit : Text.splitOn ',' (ofLabels ⟨e :: rest, hsorted⟩).toList = (e :: rest).map part := by
      rw [ofLabels, String.toList_intercalate, List.map_map, hparts, Text.splitOn_eq]
      refine List.splitOn_intercalate ',' ?_ (by simp)
      intro l hl hcomma
      obtain ⟨e', he', rfl⟩ := List.mem_map.mp hl
      obtain ⟨⟨hkey, -⟩, hvalue, -⟩ := h e' he'
      rcases List.mem_append.mp hcomma with hcomma | hcomma
      · exact hkey hcomma
      · rcases List.mem_cons.mp hcomma with heq | hcomma
        · cases heq
        · exact hvalue hcomma
    -- A part is not empty, since the equals sign stands in it.
    have hne : (ofLabels ⟨e :: rest, hsorted⟩).isEmpty = false := by
      rw [← Bool.not_eq_true, String.isEmpty_iff]
      intro hempty
      rw [hempty] at hsplit
      have hfirst := (List.cons.inj hsplit).1
      simp [part] at hfirst
    rw [requirements, hne, hsplit, List.map_map]
    refine (List.map_congr_left fun e' he' => ?_).trans (List.map_id _)
    exact requirement_entry e'.2 (h e' he').1.2

/-- Joining selectors joins their requirements. -/
theorem requirements_both (a b : Selector) : (both a b).requirements = a.requirements ++ b.requirements := by
  rw [both]
  cases ha : a.isEmpty with
  | true =>
    rw [if_pos rfl, String.isEmpty_iff.mp ha, requirements_empty, List.nil_append]
  | false =>
    rw [if_neg Bool.false_ne_true]
    cases hb : b.isEmpty with
    | true => rw [if_pos rfl, String.isEmpty_iff.mp hb, requirements_empty, List.append_nil]
    | false =>
      have hne : (a ++ "," ++ b : String).isEmpty = false := by
        rw [← Bool.not_eq_true, String.isEmpty_iff]
        intro hempty
        have hlist := congrArg String.toList hempty
        simp at hlist
      have hsplit : Text.splitOn ',' (a ++ "," ++ b : String).toList =
          Text.splitOn ',' a.toList ++ Text.splitOn ',' b.toList := by
        rw [← Text.splitOn_append]
        simp
      rw [if_neg Bool.false_ne_true, requirements, requirements, requirements, hne, ha, hb, hsplit, List.map_append]
      rfl

private theorem selects_both : (both a b).Selects labels ↔ a.Selects labels ∧ b.Selects labels := by
  rw [Selects, requirements_both]
  exact List.forall_mem_append

private theorem selects_ofLabels (h : m.Plain) :
    (ofLabels m).Selects labels ↔ ∀ e ∈ m.entries, labels.get? e.1 = some e.2 := by
  rw [Selects, requirements_ofLabels h]

end Selector

/-- The labels of the record that a call writes. -/
def BackingCall.writtenLabels? : BackingCall → Option StringMap
  | .create _ record => some (record.metadata.labels.getD .empty)
  | .replace _ _ record => some (record.metadata.labels.getD .empty)
  | _ => none

namespace ResourceDefinition

variable {d : ResourceDefinition} {σ : Type} {ns : String}

/-- Labels have every configured pair. -/
def Configured (d : ResourceDefinition) (labels : StringMap) : Prop :=
  ∀ e ∈ d.release.labels.entries, labels.get? e.1 = some e.2

/-- A watch in a namespace makes one call, with the selector of the type and the caller in it. -/
theorem watch_calls (hns : ns ≠ "") (options : ListOptions) (answer : (c : BackingCall) → σ → c.Answer × σ) (st : σ) :
    (d.watch (some ns) options).run.calls answer st =
      [.watch ns (d.watchLabels options) options.fields (watchVersion options)] := by
  rw [watch, requireNamespace_of_ne _ hns, Action.run_of_bind]
  rfl

/-- The selector of a watch asks for the configured labels and for what the caller asks for. -/
theorem selects_sent (hlabels : d.release.labels.Plain) (options : ListOptions) (labels : StringMap) :
    Selector.Selects ((d.watchLabels options).getD "") labels ↔
      d.Configured labels ∧ Selector.Selects (options.labels.getD "") labels := by
  have hsent : (d.watchLabels options).getD "" =
      Selector.both (.ofLabels d.release.labels) (options.labels.getD "") := by
    rw [watchLabels]
    split
    · rename_i hempty
      rw [hempty, Option.getD_none]
    · rfl
  rw [hsent, Selector.selects_both, Selector.selects_ofLabels hlabels, Configured]

/-- The record of a release that was written for an application has the configured labels. -/
theorem configured_of_writeRelease {operation : Operation} {name : String} {app : Application}
    {stored : Option Release} {record : Record}
    (h : writeRelease operation name (d.toRelease app stored) = .ok record) :
    d.Configured (record.metadata.labels.getD .empty) := by
  have hrecord : (d.toRelease app stored).toRecord = .ok record := Except.of_mapError_eq_ok h
  obtain ⟨hlabels, -⟩ := ObjectMeta.kept_of_ofJson?_toJson (Release.metadata_of_toRecord hrecord)
  intro e he
  have hlabel : record.metadata.labels.bind (·.get? e.1) = some e.2 := by
    rw [hlabels, d.label_toRelease, StringMap.get?_of_mem he, Option.some_or]
  obtain ⟨found, hfound, hget⟩ := Option.bind_eq_some_iff.mp hlabel
  rw [hfound, Option.getD_some, hget]

/-- Every record that a creation writes has the configured labels. -/
theorem configured_of_mem_create {app : Application} {answer : (c : BackingCall) → σ → c.Answer × σ} {st : σ}
    (hns : ns ≠ "") {c : BackingCall} (hc : c ∈ (d.create (some ns) app).run.calls answer st) {labels : StringMap}
    (hlabels : c.writtenLabels? = some labels) : d.Configured labels := by
  rw [d.create_run hns] at hc
  cases hrecord : d.createdRecord ns app with
  | error failure =>
    rw [hrecord] at hc
    cases hc
  | ok sent =>
    obtain ⟨admitted, -, hwritten⟩ := Except.of_bind_eq_ok hrecord
    obtain ⟨record, hwritten, hsent⟩ := Except.of_bind_eq_ok hwritten
    have hconfigured := configured_of_writeRelease hwritten
    cases hsent
    rw [hrecord] at hc
    cases List.mem_singleton.mp hc
    cases hlabels
    exact hconfigured

/-- Every record that an update writes has the configured labels. -/
theorem configured_of_mem_update {name : String} {updater : Option Application → Except Failure Application}
    {mayCreate : Bool} {answer : (c : BackingCall) → σ → c.Answer × σ} {st : σ} (hns : ns ≠ "") {c : BackingCall}
    (hc : c ∈ (d.update (some ns) name updater mayCreate).run.calls answer st) {labels : StringMap}
    (hlabels : c.writtenLabels? = some labels) : d.Configured labels := by
  rw [d.update_run hns] at hc
  rcases List.mem_cons.mp hc with rfl | hc
  · cases hlabels
  · rw [afterFetch] at hc
    split at hc
    · cases hc
    · rename_i stored _
      cases hrecord : d.updatedRecord ns name updater stored with
      | error failure =>
        rw [hrecord] at hc
        cases hc
      | ok record =>
        obtain ⟨app, -, hwritten⟩ := Except.of_bind_eq_ok hrecord
        obtain ⟨admitted, -, hwritten⟩ := Except.of_bind_eq_ok hwritten
        rw [hrecord] at hc
        -- It is sent as a replacement, or as a creation when there was none before.
        cases stored with
        | none =>
          cases List.mem_singleton.mp hc
          cases hlabels
          exact configured_of_writeRelease hwritten
        | some release =>
          cases List.mem_singleton.mp hc
          cases hlabels
          exact configured_of_writeRelease hwritten

/-- The selector of labels requires these labels, and two selectors that are joined are satisfied together.  So the
selector that a watch sends is satisfied by the labels that have the configured pairs and satisfy what the caller asks
for, and by those of every record that is written for an application, if the caller asks for nothing, whatever the
backing store has told of the record before. -/
theorem watch_selects_configured_and_asked (hlabels : d.release.labels.Plain) (hns : ns ≠ "")
    (answer : (c : BackingCall) → σ → c.Answer × σ) (st : σ) :
    (∀ m : StringMap, m.Plain → (Selector.ofLabels m).requirements = m.entries) ∧
    (∀ (a b : Selector) (labels : StringMap),
      (Selector.both a b).Selects labels ↔ a.Selects labels ∧ b.Selects labels) ∧
    ∀ options : ListOptions, ∃ sent : Option Selector,
      (d.watch (some ns) options).run.calls answer st =
        [.watch ns sent options.fields (watchVersion options)] ∧
      (∀ labels, Selector.Selects (sent.getD "") labels ↔
        d.Configured labels ∧ Selector.Selects (options.labels.getD "") labels) ∧
      (options.labels.getD "" = "" →
        (∀ app, ∀ c ∈ (d.create (some ns) app).run.calls answer st,
          ∀ labels ∈ c.writtenLabels?, Selector.Selects (sent.getD "") labels) ∧
        ∀ name updater mayCreate, ∀ c ∈ (d.update (some ns) name updater mayCreate).run.calls answer st,
          ∀ labels ∈ c.writtenLabels?, Selector.Selects (sent.getD "") labels) := by
  refine ⟨fun m hm => Selector.requirements_ofLabels hm, fun a b labels => Selector.selects_both,
    fun options => ⟨d.watchLabels options, watch_calls hns options answer st, selects_sent hlabels options, ?_⟩⟩
  intro hasked
  have hsatisfied {labels : StringMap} (h : d.Configured labels) :
      Selector.Selects ((d.watchLabels options).getD "") labels := by
    rw [selects_sent hlabels, hasked]
    exact ⟨h, fun e he => absurd he List.not_mem_nil⟩
  exact ⟨fun app c hc labels hw => hsatisfied (configured_of_mem_create hns hc hw),
    fun name updater mayCreate c hc labels hw => hsatisfied (configured_of_mem_update hns hc hw)⟩

/-- An update takes over a record with other labels.  What is written has the configured ones besides those of others,
and so it is selected by a watch for nothing in particular and by a watch for what the others have set. -/
theorem relabelled_record_is_watched :
    let written := (labelledType.update (some "tenant") "shop" (fun _ => .ok sampleApp) true).run.calls
      (gives sharedRecord) ()
    let labels : StringMap := .ofList [("app", "web"), ("team", "red"), ("tier", "front")]
    labelledType.release.labels.Plain ∧ written.filterMap BackingCall.writtenLabels? = [labels] ∧
      (∃ sent, (labelledType.watch (some "tenant") {}).run.calls (gives sharedRecord) () =
          [.watch "tenant" sent none "0"] ∧ Selector.Selects (sent.getD "") labels) ∧
      ∃ sent, (labelledType.watch (some "tenant") { labels := some "team=red" }).run.calls (gives sharedRecord) () =
          [.watch "tenant" sent none "0"] ∧ Selector.Selects (sent.getD "") labels := by
  intro written labels
  have hplain : labelledType.release.labels.Plain := by decide +kernel
  have hwritten : written.filterMap BackingCall.writtenLabels? = [labels] := by decide +kernel
  have hns : "tenant" ≠ "" := by decide
  obtain ⟨-, -, hwatch⟩ := watch_selects_configured_and_asked hplain hns (gives sharedRecord) ()
  refine ⟨hplain, hwritten, ?_, ?_⟩
  · obtain ⟨sent, hcalls, -, hall⟩ := hwatch {}
    obtain ⟨c, hc, hlabels⟩ := List.mem_filterMap.mp (hwritten ▸ List.mem_singleton_self labels)
    exact ⟨sent, hcalls, (hall rfl).2 _ _ _ c hc labels hlabels⟩
  · obtain ⟨sent, hcalls, hselects, -⟩ := hwatch { labels := some "team=red" }
    have hasked : Selector.Selects "team=red" labels := by decide +kernel
    have hconfigured : labelledType.Configured labels := by
      rw [Configured]
      decide +kernel
    exact ⟨sent, hcalls, (hselects labels).mpr ⟨hconfigured, hasked⟩⟩

end ResourceDefinition

end AppGateway
