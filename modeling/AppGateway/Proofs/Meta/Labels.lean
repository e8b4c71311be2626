import AppGateway.Meta.StringMap
import AppGateway.Proofs.Json.Members

/-!
# Looking up labels

* `StringMap.get?_insert`: setting a key changes what is found under this key only;
* `StringMap.get?_union`: of two maps, the overriding one is asked first;
* `StringMap.union_union`: setting the same entries once more changes nothing.
-/

namespace AppGateway

namespace StringMap

private theorem lookup_insertEntry (key value k : String) (entries : List (String × String)) :
    (insertEntry key value entries).lookup k = if k = key then some value else entries.lookup k := by
  induction entries with
  | nil => rw [insertEntry, lookup_entry_cons]
  | cons e rest ih =>
    unfold insertEntry
    split
    · simp [lookup_entry_cons]
    · split
      · rename_i he
        by_cases hk : k = key <;> simp [lookup_entry_cons, ← he, hk]
      · rename_i hne
        rw [lookup_entry_cons, ih, lookup_entry_cons]
        by_cases hk : k = key <;> simp [hk, hne]

theorem get?_insert (m : StringMap) (key value k : String) :
    (m.insert key value).get? k = if k = key then some value else m.get? k :=
  lookup_insertEntry key value k m.entries

/-- An entry set later wins, unless it is under another key; with each key once the order does not matter. -/
private theorem get?_foldl_insert (k : String) (entries : List (String × String)) (acc : StringMap)
    (h : entries.Pairwise fun a b => a.1 < b.1) :
    (entries.foldl (fun acc e => acc.insert e.1 e.2) acc).get? k = (entries.lookup k).or (acc.get? k) := by
  induction entries generalizing acc with
  | nil => rfl
  | cons e rest ih =>
    obtain ⟨hhead, hrest⟩ := List.pairwise_cons.mp h
    rw [List.foldl_cons, ih _ hrest, get?_insert, lookup_entry_cons]
    by_cases hk : k = e.1
    · have hnone : rest.lookup k = none := by
        rw [List.lookup_eq_none_iff]
        intro e' he'
        have hlt : k < e'.1 := hk ▸ hhead e' he'
        exact bne_iff_ne.mpr (Std.ne_of_lt hlt)
      simp [hk ▸ hnone, hk]
    · simp [hk]

/-- The overrides come first. -/
theorem get?_union (m overrides : StringMap) (k : String) :
    (m.union overrides).get? k = (overrides.get? k).or (m.get? k) :=
  get?_foldl_insert k overrides.entries m overrides.sorted

theorem get?_of_isEmpty {m : StringMap} (h : m.isEmpty = true) (k : String) : m.get? k = none := by
  rw [isEmpty, List.isEmpty_iff] at h
  rw [get?, h, List.lookup_nil]

/-! ### Setting what is there -/

/-- Setting the value that a key has already changes nothing. -/
private theorem insertEntry_of_lookup {key value : String} {entries : List (String × String)}
    (hsorted : entries.Pairwise fun a b => a.1 < b.1) (h : entries.lookup key = some value) :
    insertEntry key value entries = entries := by
  induction entries with
  | nil => cases h
  | cons e rest ih =>
    obtain ⟨hhead, hrest⟩ := List.pairwise_cons.mp hsorted
    rw [lookup_entry_cons] at h
    by_cases hkey : key = e.1
    · rw [if_pos hkey] at h
      cases h
      rw [insertEntry, if_neg (hkey ▸ String.lt_irrefl _), if_pos hkey, hkey]
    · rw [if_neg hkey] at h
      -- The key stands behind the first one, so it does not go in front of it.
      obtain ⟨before, after, hentries, -⟩ := List.lookup_eq_some_iff.mp h
      have hbelow : e.1 < key := hhead (key, value) (by simp [hentries])
      have hnot : ¬ key < e.1 := fun hlt => String.lt_irrefl _ (String.lt_trans hlt hbelow)
      rw [insertEntry, if_neg hnot, if_neg hkey, ih hrest h]

private theorem insert_of_get? {m : StringMap} {key value : String} (h : m.get? key = some value) :
    m.insert key value = m := by
  obtain ⟨entries, hsorted⟩ := m
  simp only [insert, insertEntry_of_lookup hsorted h]

/-- With the keys in order, every entry is the one that is found. -/
theorem get?_of_mem {m : StringMap} {e : String × String} (h : e ∈ m.entries) : m.get? e.1 = some e.2 := by
  obtain ⟨before, after, hentries⟩ := List.append_of_mem h
  have hne : ∀ p ∈ before, e.1 != p.1 := by
    intro p hp
    have hlt : p.1 < e.1 := (List.pairwise_append.mp (hentries ▸ m.sorted)).2.2 p hp e (by simp)
    exact bne_iff_ne.mpr (Std.ne_of_lt hlt).symm
  exact List.lookup_eq_some_iff.mpr ⟨before, after, hentries, hne⟩

private theorem foldl_insert_of_get? {m : StringMap} {entries : List (String × String)}
    (h : ∀ e ∈ entries, m.get? e.1 = some e.2) : entries.foldl (fun acc e => acc.insert e.1 e.2) m = m := by
  induction entries with
  | nil => rfl
  | cons e rest ih =>
    rw [List.foldl_cons, insert_of_get? (h e List.mem_cons_self)]
    exact ih fun e' he' => h e' (List.mem_cons_of_mem _ he')

/-- The entries of an overriding map are set once and for all. -/
theorem union_union (m overrides : StringMap) : (m.union overrides).union overrides = m.union overrides := by
  refine foldl_insert_of_get? fun e he => ?_
  rw [get?_union, get?_of_mem he, Option.some_or]

end StringMap

end AppGateway
