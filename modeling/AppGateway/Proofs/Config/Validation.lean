import AppGateway.Config.Validation

/-!
# What validation accepts

A configuration is accepted when no entry has a fault of its own and no plural is given twice.

* `ResourceDefinition.fault?_eq_none_iff`: an entry has no fault of its own exactly if every requirement is met;
* `ResourceConfig.firstFault?_eq_none_iff`: the same for all entries, after entries that were seen before;
* `ResourceConfig.nodup_plurals`: the plurals of an accepted configuration are pairwise different.
-/

namespace AppGateway

theorem ResourceDefinition.fault?_eq_none_iff (d : ResourceDefinition) (index : Nat) :
    d.fault? index = none ↔ ∀ r ∈ d.requirements, r.1 = true := by
  simp [fault?]

namespace ResourceConfig

/-- The plurals of definitions, in order. -/
def plurals (ds : List ResourceDefinition) : List String := ds.map (·.application.plural)

theorem firstFault?_eq_none_iff (seen : List String) (index : Nat) (ds : List ResourceDefinition) :
    firstFault? seen index ds = none ↔
      (∀ d ∈ ds, ∀ r ∈ d.requirements, r.1 = true) ∧ (∀ p ∈ plurals ds, p ∉ seen) ∧ (plurals ds).Nodup := by
  induction ds generalizing seen index with
  | nil => simp [firstFault?, plurals]
  | cons d rest ih =>
    rw [firstFault?]
    cases hfault : d.fault? index with
    | some fault =>
      -- The entry does not meet a requirement.
      have hunmet : ¬ ∀ r ∈ d.requirements, r.1 = true := by
        rw [← d.fault?_eq_none_iff index, hfault]
        simp
      simp only [reduceCtorEq, List.forall_mem_cons, false_iff]
      exact fun h => hunmet h.1.1
    | none =>
      have hmet := (d.fault?_eq_none_iff index).mp hfault
      by_cases hseen : d.application.plural ∈ seen
      · simp only [List.contains_iff_mem, hseen, if_true, reduceCtorEq, false_iff]
        exact fun h => h.2.1 _ (by simp [plurals]) hseen
      · simp only [List.contains_iff_mem, hseen, if_false, ih, plurals, List.map_cons, List.forall_mem_cons,
          List.nodup_cons]
        constructor
        · rintro ⟨hrest, hfresh, hnodup⟩
          have hnew : d.application.plural ∉ rest.map (·.application.plural) := fun hd =>
            hfresh _ hd List.mem_cons_self
          exact ⟨⟨hmet, hrest⟩, ⟨not_false, fun p hp h => hfresh p hp (List.mem_cons_of_mem _ h)⟩, hnew, hnodup⟩
        · rintro ⟨⟨_, hrest⟩, ⟨_, hfresh⟩, hnew, hnodup⟩
          refine ⟨hrest, fun p hp h => ?_, hnodup⟩
          rcases List.mem_cons.mp h with rfl | h
          · exact hnew hp
          · exact hfresh p hp h

/-- No two definitions of an accepted configuration have the same plural. -/
theorem nodup_plurals {c : ResourceConfig} (h : c.validate = .ok ()) : (plurals c.resources).Nodup := by
  rw [validate] at h
  cases hfault : firstFault? [] 0 c.resources with
  | none => exact ((firstFault?_eq_none_iff [] 0 c.resources).mp hfault).2.2
  | some fault =>
    rw [hfault] at h
    cases h

end ResourceConfig

end AppGateway
