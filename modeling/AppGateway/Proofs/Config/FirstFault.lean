import AppGateway.Proofs.Config.Validation

/-!
# The fault that is reported

An entry is checked for six things, in the order of `EntryCheck`: five of its own and one against the entries before
it.  Validation goes through the entries and stops at the first check that fails.

* `ResourceDefinition.fault?_cases`: the first of its own checks that an entry fails, or that it fails none;
* `ResourceConfig.firstFault?_run`: the loop, after entries that fail nothing;
* `ResourceConfig.FirstFault.unique`: there is at most one first fault;
* `ResourceConfig.validate_exact`: a configuration is accepted just when every entry is filled in and no plural is
  given twice, and it is otherwise refused with its first fault.
-/

namespace AppGateway

/-- What an entry is checked for. -/
inductive EntryCheck where
  | kind
  | plural
  | namePrefix
  | chartName
  | source
  | duplicate
deriving DecidableEq, Repr

namespace EntryCheck

/-- The place of a check in the order of the checks. -/
def rank : EntryCheck → Nat
  | kind => 0
  | plural => 1
  | namePrefix => 2
  | chartName => 3
  | source => 4
  | duplicate => 5

def field : EntryCheck → String
  | kind => "application.kind"
  | plural | duplicate => "application.plural"
  | namePrefix => "release.prefix"
  | chartName => "release.chart.name"
  | source => "release.chart.sourceRef"

/-- What is said of an entry that fails the check. -/
def message (d : ResourceDefinition) : EntryCheck → String
  | kind => "empty kind"
  | plural => "empty plural"
  | namePrefix => "empty release prefix"
  | chartName => "empty chart name"
  | source => "incomplete chart sourceRef"
  | duplicate => "duplicate plural " ++ d.application.plural

/-- The entry `d` fails the check when the entries `earlier` come before it. -/
def FailedBy (earlier : List ResourceDefinition) (d : ResourceDefinition) : EntryCheck → Prop
  | kind => d.application.kind = ""
  | plural => d.application.plural = ""
  | namePrefix => d.release.namePrefix = ""
  | chartName => d.release.chart.name = ""
  | source =>
    d.release.chart.source.kind = "" ∨ d.release.chart.source.name = "" ∨ d.release.chart.source.ns = ""
  | duplicate => ∃ e ∈ earlier, e.application.plural = d.application.plural

instance (earlier : List ResourceDefinition) (d : ResourceDefinition) :
    DecidablePred (FailedBy earlier d)
  | kind => inferInstanceAs (Decidable (d.application.kind = ""))
  | plural => inferInstanceAs (Decidable (d.application.plural = ""))
  | namePrefix => inferInstanceAs (Decidable (d.release.namePrefix = ""))
  | chartName => inferInstanceAs (Decidable (d.release.chart.name = ""))
  | source => inferInstanceAs (Decidable (d.release.chart.source.kind = "" ∨ _))
  | duplicate => inferInstanceAs (Decidable (∃ e ∈ earlier, e.application.plural = d.application.plural))

/-- The checks of an entry on its own, in their order. -/
def own : List EntryCheck := [kind, plural, namePrefix, chartName, source]

private theorem mem_own {check : EntryCheck} : check ∈ own ↔ check ≠ duplicate := by
  cases check <;> simp [own]

private theorem own_sorted : own.Pairwise fun a b => a.rank < b.rank := by
  simp [own, rank]

private theorem rank_injective : Function.Injective rank := by
  intro a b
  cases a <;> cases b <;> simp [rank]

end EntryCheck

namespace ResourceDefinition

structure Complete (d : ResourceDefinition) : Prop where
  kind : d.application.kind ≠ ""
  plural : d.application.plural ≠ ""
  namePrefix : d.release.namePrefix ≠ ""
  chartName : d.release.chart.name ≠ ""
  sourceKind : d.release.chart.source.kind ≠ ""
  sourceName : d.release.chart.source.name ≠ ""
  sourceNamespace : d.release.chart.source.ns ≠ ""

private theorem requirements_iff (d : ResourceDefinition) : (∀ r ∈ d.requirements, r.1 = true) ↔ d.Complete := by
  constructor
  · intro h
    simp only [requirements, List.forall_mem_cons, Bool.and_eq_true, Bool.not_eq_true',
      String.isEmpty_eq_false_iff] at h
    obtain ⟨hkind, hplural, hprefix, hchart, ⟨⟨hsk, hsn⟩, hss⟩, -⟩ := h
    exact ⟨hkind, hplural, hprefix, hchart, hsk, hsn, hss⟩
  · intro h
    simp [requirements, h.kind, h.plural, h.namePrefix, h.chartName, h.sourceKind, h.sourceName, h.sourceNamespace]

/-- The requirements of an entry are its own checks, one for one. -/
private theorem requirements_eq (d : ResourceDefinition) (earlier : List ResourceDefinition) :
    d.requirements = EntryCheck.own.map fun k => (!decide (k.FailedBy earlier d), k.field, k.message d) := by
  have hempty : ∀ (text : String) [Decidable (text = "")], text.isEmpty = decide (text = "") := by
    intro text _
    by_cases h : text = "" <;> simp [h]
  have hsource : decide (EntryCheck.source.FailedBy earlier d) =
      (decide (d.release.chart.source.kind = "") || (decide (d.release.chart.source.name = "") ||
        decide (d.release.chart.source.ns = ""))) := by
    rw [← Bool.decide_or, ← Bool.decide_or]
    rfl
  simp only [requirements, EntryCheck.own, List.map_cons, List.map_nil, hsource, Bool.not_or, hempty, Bool.and_assoc]
  rfl

private theorem fault?_eq (d : ResourceDefinition) (earlier : List ResourceDefinition) (index : Nat) :
    d.fault? index = (EntryCheck.own.find? fun k => decide (k.FailedBy earlier d)).map fun k =>
      .validation index k.field (k.message d) := by
  rw [fault?, d.requirements_eq earlier, List.find?_map, Option.map_map]
  simp [Function.comp_def]

/-- An entry on its own fails nothing, or its fault is the one of the first check that it fails. -/
theorem fault?_cases (d : ResourceDefinition) (earlier : List ResourceDefinition) (index : Nat) :
    (d.fault? index = none ∧ ∀ k : EntryCheck, k ≠ .duplicate → ¬ k.FailedBy earlier d) ∨
    ∃ check : EntryCheck, check.FailedBy earlier d ∧
      (∀ k : EntryCheck, k.rank < check.rank → ¬ k.FailedBy earlier d) ∧
      d.fault? index = some (.validation index check.field (check.message d)) := by
  rw [d.fault?_eq earlier]
  cases hfound : EntryCheck.own.find? fun k => decide (k.FailedBy earlier d) with
  | none =>
    left
    refine ⟨rfl, fun k hk hfailed => ?_⟩
    have hpassed := List.find?_eq_none.mp hfound k (EntryCheck.mem_own.mpr hk)
    exact hpassed (decide_eq_true hfailed)
  | some check =>
    right
    obtain ⟨hfailed, passed, later, hown, hpassed⟩ := List.find?_eq_some_iff_append.mp hfound
    refine ⟨check, of_decide_eq_true hfailed, fun k hk => ?_, rfl⟩
    -- A check that comes before `check` is none of those that come after it.
    have hsorted := EntryCheck.own_sorted
    have hmem : k ∈ EntryCheck.own := by
      rw [EntryCheck.mem_own]
      rintro rfl
      cases check <;> simp [EntryCheck.rank] at hk
    rw [hown] at hsorted hmem
    have hafter := (List.pairwise_cons.mp (List.pairwise_append.mp hsorted).2.1).1
    rcases List.mem_append.mp hmem with hmem | hmem
    · simpa using hpassed k hmem
    · rcases List.mem_cons.mp hmem with rfl | hmem
      · omega
      · have := hafter k hmem
        omega

end ResourceDefinition

namespace ResourceConfig

def Faultless (ds : List ResourceDefinition) : Prop :=
  ∀ (i : Nat) (d : ResourceDefinition), ds[i]? = some d → ∀ k : EntryCheck, ¬ k.FailedBy (ds.take i) d

/-- Entry `i` of `ds` is `d`, the first entry that fails a check, and `check` is the first check that it fails. -/
structure FirstFault (ds : List ResourceDefinition) (i : Nat) (d : ResourceDefinition) (check : EntryCheck) :
    Prop where
  entry : ds[i]? = some d
  failed : check.FailedBy (ds.take i) d
  first_check : ∀ k : EntryCheck, k.rank < check.rank → ¬ k.FailedBy (ds.take i) d
  first_entry : ∀ j < i, ∀ e, ds[j]? = some e → ∀ k : EntryCheck, ¬ k.FailedBy (ds.take j) e

theorem FirstFault.unique {ds : List ResourceDefinition} {i i' : Nat} {d d' : ResourceDefinition}
    {check check' : EntryCheck} (h : FirstFault ds i d check) (h' : FirstFault ds i' d' check') :
    i = i' ∧ d = d' ∧ check = check' := by
  have hi : i = i' := by
    rcases Nat.lt_trichotomy i i' with hlt | heq | hlt
    · exact absurd h.failed (h'.first_entry i hlt d h.entry check)
    · exact heq
    · exact absurd h'.failed (h.first_entry i' hlt d' h'.entry check')
  subst hi
  have hd : d = d' := Option.some.inj (h.entry.symm.trans h'.entry)
  subst hd
  refine ⟨rfl, rfl, EntryCheck.rank_injective ?_⟩
  have hge : ¬ check.rank < check'.rank := fun hlt => h'.first_check check hlt h.failed
  have hle : ¬ check'.rank < check.rank := fun hlt => h.first_check check' hlt h'.failed
  omega

/-- Entries that fail nothing fail nothing when others come after them. -/
theorem Faultless.of_lt {before : List ResourceDefinition} (h : Faultless before) (rest : List ResourceDefinition)
    {j : Nat} (hj : j < before.length) {e : ResourceDefinition} (he : (before ++ rest)[j]? = some e)
    (k : EntryCheck) : ¬ k.FailedBy ((before ++ rest).take j) e := by
  rw [List.getElem?_append_left hj] at he
  rw [List.take_append_of_le_length (Nat.le_of_lt hj)]
  exact h j e he k

private theorem Faultless.concat {before : List ResourceDefinition} (h : Faultless before) {d : ResourceDefinition}
    (hd : ∀ k : EntryCheck, ¬ k.FailedBy before d) : Faultless (before ++ [d]) := by
  intro j e he
  obtain ⟨hj, -⟩ := List.getElem?_eq_some_iff.mp he
  rw [List.length_append, List.length_singleton] at hj
  by_cases hlast : j = before.length
  · subst hlast
    have hd' : d = e := by simpa using he
    subst hd'
    simpa using hd
  · exact h.of_lt [d] (by omega) he

/-- The loop over the entries `rest` that come after the entries `before`, which fail nothing. -/
theorem firstFault?_run (before rest : List ResourceDefinition) (h : Faultless before) :
    (firstFault? (plurals before).reverse before.length rest = none ∧ Faultless (before ++ rest)) ∨
    ∃ i d check, FirstFault (before ++ rest) i d check ∧
      firstFault? (plurals before).reverse before.length rest =
        some (.validation i check.field (check.message d)) := by
  induction rest generalizing before with
  | nil => exact .inl ⟨rfl, by simpa using h⟩
  | cons d rest ih =>
    have hentry : (before ++ d :: rest)[before.length]? = some d := by simp
    have htake : (before ++ d :: rest).take before.length = before := by simp
    have hearlier := fun j hj e he => h.of_lt (d :: rest) (j := j) hj (e := e) he
    have hrepeats : d.application.plural ∈ plurals before ↔ EntryCheck.duplicate.FailedBy before d := by
      simp [plurals, EntryCheck.FailedBy]
    rcases d.fault?_cases before before.length with ⟨hnone, hpassed⟩ | ⟨check, hfailed, hfirst, hsome⟩
    · by_cases hseen : EntryCheck.duplicate.FailedBy before d
      · right
        refine ⟨before.length, d, .duplicate, ⟨hentry, by rwa [htake], ?_, hearlier⟩, ?_⟩
        · intro k hk
          rw [htake]
          exact hpassed k (by rintro rfl; omega)
        · have hmem : d.application.plural ∈ plurals before := hrepeats.mpr hseen
          simp only [firstFault?, hnone, List.contains_iff_mem, List.mem_reverse, hmem, if_true]
          rfl
      · -- The entry fails nothing, and the loop goes on with it among the entries before.
        have hnext : Faultless (before ++ [d]) := by
          refine h.concat fun k => ?_
          by_cases hk : k = .duplicate
          · rwa [hk]
          · exact hpassed k hk
        have hrest := ih (before ++ [d]) hnext
        have hstep : firstFault? (plurals before).reverse before.length (d :: rest) =
            firstFault? (plurals (before ++ [d])).reverse (before ++ [d]).length rest := by
          have hmem : d.application.plural ∉ plurals before := fun hmem => hseen (hrepeats.mp hmem)
          simp only [firstFault?, hnone, List.contains_iff_mem, List.mem_reverse, hmem, if_false]
          simp [plurals]
        rw [hstep]
        simpa using hrest
    · right
      refine ⟨before.length, d, check, ⟨hentry, by rwa [htake], by rwa [htake], hearlier⟩, ?_⟩
      simp [firstFault?, hsome]

/-- A configuration is accepted just when every entry has a kind, a plural, a prefix, a chart name and a complete
chart source and the plurals are pairwise different.  Otherwise the fault is that of the first entry that lacks one
of these or repeats the plural of an earlier entry, and of the first check that this entry fails. -/
theorem validate_exact (c : ResourceConfig) :
    (c.validate = .ok () ↔
      (∀ d ∈ c.resources, d.Complete) ∧ (c.resources.map (·.application.plural)).Nodup) ∧
    ∀ fault, c.validate = .error fault ↔
      ∃ i d check, FirstFault c.resources i d check ∧ fault = .validation i check.field (check.message d) := by
  constructor
  · have hnone := firstFault?_eq_none_iff [] 0 c.resources
    simp only [ResourceDefinition.requirements_iff, List.not_mem_nil, not_false_eq_true, implies_true,
      true_and] at hnone
    rw [← plurals, ← hnone, validate]
    cases firstFault? [] 0 c.resources <;> simp
  · intro fault
    have hempty : Faultless [] := by
      intro i d hd
      simp at hd
    rcases firstFault?_run [] c.resources hempty with ⟨hnone, hfaultless⟩ | ⟨i, d, check, hfirst, hsome⟩
    · have hok : c.validate = .ok () := by
        rw [validate, show firstFault? [] 0 c.resources = none from hnone]
      rw [hok]
      simp only [reduceCtorEq, false_iff]
      rintro ⟨i, d, check, hfirst, -⟩
      exact hfaultless i d hfirst.entry check hfirst.failed
    · have herror : c.validate = .error (.validation i check.field (check.message d)) := by
        rw [validate, show firstFault? [] 0 c.resources = some _ from hsome]
      rw [herror]
      constructor
      · intro h
        exact ⟨i, d, check, hfirst, (Except.error.inj h).symm⟩
      · rintro ⟨i', d', check', hfirst', rfl⟩
        obtain ⟨rfl, rfl, rfl⟩ := hfirst.unique hfirst'
        rfl

end ResourceConfig

end AppGateway
