import Mathlib.Data.List.Forall2
import Mathlib.Data.List.Nodup

/-!
# Maps that keep the order in which their names came in

A `Directory` maps names to values and lists them in the order in which they were added.  Setting the value of a name
that is there keeps its place.

* (looking up) `find?_set`, `find?_erase`: a change at one name is seen at this name only;
* (relating) `Related.find?`, `Related.set`, `Related.erase`: two directories whose names correspond one to one, in the
  same order, stay related when both are changed at corresponding names.
-/

namespace AppGateway

/-- A map from names to values, in the order in which the names were added. -/
structure Directory (α : Type) where
  entries : List (String × α) := []
  nodup : (entries.map (·.1)).Nodup

namespace Directory

variable {α β : Type}

/-- The directory without names. -/
def empty : Directory α := ⟨[], List.nodup_nil⟩

theorem ext_entries {m m' : Directory α} (h : m.entries = m'.entries) : m = m' := by
  cases m
  cases m'
  simpa using h

/-- The value of a name. -/
def find? (m : Directory α) (name : String) : Option α := m.entries.lookup name

/-- Sets the value of a name in a list of entries: in place if the name is there, else at the end. -/
def setEntry (name : String) (a : α) : List (String × α) → List (String × α)
  | [] => [(name, a)]
  | e :: rest => if e.1 = name then (name, a) :: rest else e :: setEntry name a rest

private theorem mem_keys_setEntry {name key : String} {a : α} {entries : List (String × α)} :
    key ∈ (setEntry name a entries).map (·.1) ↔ key = name ∨ key ∈ entries.map (·.1) := by
  induction entries with
  | nil => simp [setEntry]
  | cons e rest ih =>
    by_cases he : e.1 = name
    · simp only [setEntry, he, if_true, List.map_cons, List.mem_cons]
      tauto
    · simp only [setEntry, he, if_false, List.map_cons, List.mem_cons, ih]
      tauto

theorem nodup_setEntry {name : String} {a : α} {entries : List (String × α)} (h : (entries.map (·.1)).Nodup) :
    ((setEntry name a entries).map (·.1)).Nodup := by
  induction entries with
  | nil => simp [setEntry]
  | cons e rest ih =>
    rw [List.map_cons, List.nodup_cons] at h
    by_cases he : e.1 = name
    · simp only [setEntry, he, if_true, List.map_cons, List.nodup_cons]
      exact ⟨he ▸ h.1, h.2⟩
    · simp only [setEntry, he, if_false, List.map_cons, List.nodup_cons, mem_keys_setEntry]
      exact ⟨by tauto, ih h.2⟩

theorem mem_setEntry {name : String} {a : α} {e : String × α} {entries : List (String × α)}
    (h : e ∈ setEntry name a entries) : e = (name, a) ∨ e ∈ entries := by
  induction entries with
  | nil => simpa [setEntry] using h
  | cons e' rest ih =>
    rw [setEntry] at h
    split at h
    · rcases List.mem_cons.mp h with h | h
      · exact .inl h
      · exact .inr (List.mem_cons_of_mem _ h)
    · rcases List.mem_cons.mp h with h | h
      · exact .inr (h ▸ List.mem_cons_self)
      · exact (ih h).imp_right (List.mem_cons_of_mem _)

/-- Sets the value of a name: in place if the name is there, else at the end. -/
def set (m : Directory α) (name : String) (a : α) : Directory α :=
  ⟨setEntry name a m.entries, nodup_setEntry m.nodup⟩

/-- Removes a name. -/
def erase (m : Directory α) (name : String) : Directory α :=
  ⟨m.entries.filter (·.1 ≠ name), m.nodup.sublist (List.filter_sublist.map _)⟩

/-! ### Looking up -/

theorem lookup_cons (e : String × α) (rest : List (String × α)) (name : String) :
    (e :: rest).lookup name = if e.1 = name then some e.2 else rest.lookup name := by
  obtain ⟨key, a⟩ := e
  by_cases h : key = name
  · simp [h]
  · have hb : (name == key) = false := beq_eq_false_iff_ne.mpr (Ne.symm h)
    simp [List.lookup_cons, h, hb]

theorem setEntry_of_lookup_none {name : String} {a : α} {entries : List (String × α)}
    (h : entries.lookup name = none) : setEntry name a entries = entries ++ [(name, a)] := by
  induction entries with
  | nil => rfl
  | cons e rest ih =>
    rw [lookup_cons] at h
    split at h
    · cases h
    · rename_i he
      rw [setEntry, if_neg he, ih h, List.cons_append]

/-- What is found after an entry is set. -/
theorem find?_set (m : Directory α) (name : String) (a : α) (key : String) :
    (m.set name a).find? key = if key = name then some a else m.find? key := by
  show (setEntry name a m.entries).lookup key = if key = name then some a else m.entries.lookup key
  induction m.entries with
  | nil => simp [setEntry, lookup_cons, eq_comm]
  | cons e rest ih =>
    by_cases he : e.1 = name
    · by_cases hk : key = name
      · simp [setEntry, he, hk]
      · simp [setEntry, he, lookup_cons, hk, Ne.symm hk]
    · by_cases hk : key = name
      · subst hk
        simpa [setEntry, lookup_cons, he] using ih
      · simp only [setEntry, he, if_false, lookup_cons, ih]
        simp [hk]

@[simp] theorem find?_set_self (m : Directory α) (name : String) (a : α) : (m.set name a).find? name = some a := by
  simp [find?_set]

/-- What is found after an entry is erased. -/
theorem find?_erase (m : Directory α) (name key : String) :
    (m.erase name).find? key = if key = name then none else m.find? key := by
  show (m.entries.filter (·.1 ≠ name)).lookup key = if key = name then none else m.entries.lookup key
  induction m.entries with
  | nil => simp
  | cons e rest ih =>
    by_cases he : e.1 = name
    · rw [List.filter_cons_of_neg (by simpa using he), ih, lookup_cons]
      by_cases hk : key = name
      · simp [hk]
      · simp [hk, he, Ne.symm hk]
    · rw [List.filter_cons_of_pos (by simpa using he), lookup_cons, lookup_cons, ih]
      by_cases hk : key = name
      · simp [hk, he]
      · simp [hk]

/-- What is found is an entry. -/
theorem mem_of_lookup {name : String} {a : α} {entries : List (String × α)} (h : entries.lookup name = some a) :
    (name, a) ∈ entries := by
  induction entries with
  | nil => simp at h
  | cons e rest ih =>
    rw [lookup_cons] at h
    split at h
    · rename_i he
      cases h
      rw [← he]
      exact List.mem_cons_self
    · exact List.mem_cons_of_mem _ (ih h)

/-- With each name once, every entry is the one that is found. -/
theorem find?_of_mem (m : Directory α) {e : String × α} (h : e ∈ m.entries) : m.find? e.1 = some e.2 := by
  obtain ⟨entries, hnodup⟩ := m
  show entries.lookup e.1 = some e.2
  replace h : e ∈ entries := h
  induction entries with
  | nil => cases h
  | cons e' rest ih =>
    obtain ⟨hhead, hrest⟩ := List.nodup_cons.mp hnodup
    rw [lookup_cons]
    rcases List.mem_cons.mp h with rfl | h
    · exact if_pos rfl
    · have hmem : e.1 ∈ rest.map (·.1) := List.mem_map_of_mem h
      have hne : e'.1 ≠ e.1 := by
        intro he
        rw [← he] at hmem
        exact hhead hmem
      rw [if_neg hne]
      exact ih hrest h

/-- Removing a name takes its entry out from between the others. -/
theorem entries_erase {m : Directory α} {name : String} {a : α} {before after : List (String × α)}
    (h : m.entries = before ++ (name, a) :: after) : (m.erase name).entries = before ++ after := by
  have hnodup : ((before ++ (name, a) :: after).map (·.1)).Nodup := h ▸ m.nodup
  rw [List.map_append, List.map_cons, List.nodup_middle, List.nodup_cons, ← List.map_append] at hnodup
  have hother : ∀ e ∈ before ++ after, e.1 ≠ name := fun e he hname =>
    hnodup.1 (List.mem_map.mpr ⟨e, he, hname⟩)
  show m.entries.filter (·.1 ≠ name) = before ++ after
  rw [h, List.filter_append, List.filter_cons_of_neg (by simp), ← List.filter_append, List.filter_eq_self]
  intro e he
  simpa using hother e he

/-- A change at one name goes unnoticed among the entries of which neither the old nor the new one is. -/
private theorem filter_setEntry {p : String × α → Bool} {name : String} {a : α} {entries : List (String × α)}
    (hp : p (name, a) = false) (hold : ∀ old, entries.lookup name = some old → p (name, old) = false) :
    (setEntry name a entries).filter p = entries.filter p := by
  induction entries with
  | nil => simp [setEntry, hp]
  | cons e rest ih =>
    obtain ⟨key, old⟩ := e
    rw [lookup_cons] at hold
    by_cases hkey : key = name
    · subst hkey
      have he : p (key, old) = false := hold old (if_pos rfl)
      simp [setEntry, hp, he]
    · have hrest : ∀ old, rest.lookup name = some old → p (name, old) = false := by simpa [hkey] using hold
      simp only [setEntry, hkey, if_false, List.filter_cons, ih hrest]

theorem filter_entries_set (m : Directory α) {p : String × α → Bool} {name : String} {a : α}
    (hp : p (name, a) = false) (hold : ∀ old, m.find? name = some old → p (name, old) = false) :
    (m.set name a).entries.filter p = m.entries.filter p := filter_setEntry hp hold

theorem filter_entries_erase (m : Directory α) {p : String × α → Bool} {name : String}
    (hold : ∀ old, m.find? name = some old → p (name, old) = false) :
    (m.erase name).entries.filter p = m.entries.filter p := by
  show (m.entries.filter (·.1 ≠ name)).filter p = m.entries.filter p
  rw [List.filter_filter]
  refine List.filter_congr fun e he => ?_
  by_cases hname : e.1 = name
  · have hfind : m.find? name = some e.2 := hname ▸ m.find?_of_mem he
    have hp : p e = false := by simpa [← hname] using hold e.2 hfind
    simp [hp]
  · simp [hname]

/-- A new name is added at the end. -/
theorem entries_set_of_none (m : Directory α) {name : String} (a : α) (h : m.find? name = none) :
    (m.set name a).entries = m.entries ++ [(name, a)] := setEntry_of_lookup_none h

/-! ### Relating directories -/

/-- Two directories have corresponding names in the same order, with values that are related. -/
def Related (key : String → String) (R : String → α → β → Prop) (m : Directory α) (m' : Directory β) : Prop :=
  List.Forall₂ (fun e e' => e.1 = key e'.1 ∧ R e'.1 e.2 e'.2) m.entries m'.entries

variable {key : String → String} {R : String → α → β → Prop} {m : Directory α} {m' : Directory β}

theorem Related.empty : Related key R empty empty := .nil

/-- Corresponding names are both there, with related values, or both missing. -/
theorem Related.find? (hkey : Function.Injective key) (h : Related key R m m') (name : String) :
    (m.find? (key name) = none ∧ m'.find? name = none) ∨
      ∃ a b, m.find? (key name) = some a ∧ m'.find? name = some b ∧ R name a b := by
  show (m.entries.lookup (key name) = none ∧ m'.entries.lookup name = none) ∨
    ∃ a b, m.entries.lookup (key name) = some a ∧ m'.entries.lookup name = some b ∧ R name a b
  rw [Related] at h
  generalize m.entries = entries, m'.entries = entries' at h ⊢
  induction h with
  | nil => exact .inl ⟨rfl, rfl⟩
  | @cons e e' rest rest' he _ ih =>
    simp only [lookup_cons, he.1, hkey.eq_iff]
    by_cases hn : e'.1 = name
    · rw [if_pos hn, if_pos hn]
      exact .inr ⟨e.2, e'.2, rfl, rfl, hn ▸ he.2⟩
    · rw [if_neg hn, if_neg hn]
      exact ih

theorem Related.set (hkey : Function.Injective key) (h : Related key R m m') {name : String} {a : α} {b : β}
    (hab : R name a b) : Related key R (m.set (key name) a) (m'.set name b) := by
  show List.Forall₂ _ (setEntry (key name) a m.entries) (setEntry name b m'.entries)
  rw [Related] at h
  generalize m.entries = entries, m'.entries = entries' at h ⊢
  induction h with
  | nil => exact .cons ⟨rfl, hab⟩ .nil
  | @cons e e' rest rest' he hrest ih =>
    by_cases hn : e'.1 = name
    · simp only [setEntry, he.1, hn, if_true]
      exact .cons ⟨rfl, hab⟩ hrest
    · simp only [setEntry, he.1, hkey.eq_iff, hn, if_false]
      exact .cons he ih

theorem Related.erase (hkey : Function.Injective key) (h : Related key R m m') (name : String) :
    Related key R (m.erase (key name)) (m'.erase name) := by
  show List.Forall₂ _ (m.entries.filter (·.1 ≠ key name)) (m'.entries.filter (·.1 ≠ name))
  rw [Related] at h
  generalize m.entries = entries, m'.entries = entries' at h ⊢
  induction h with
  | nil => exact .nil
  | @cons e e' rest rest' he hrest ih =>
    by_cases hn : e'.1 = name
    · rw [List.filter_cons_of_neg (by simp [he.1, hn]), List.filter_cons_of_neg (by simp [hn])]
      exact ih
    · rw [List.filter_cons_of_pos (by simp [he.1, hkey.eq_iff, hn]), List.filter_cons_of_pos (by simp [hn])]
      exact .cons he ih

end Directory

end AppGateway
