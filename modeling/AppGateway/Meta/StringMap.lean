import AppGateway.Json.Read

/-!
# Maps from text to text

Labels and annotations.  The entries are kept in key order, by code points, with each key once; `StringMap.insert`
keeps them so (`pairwise_insertEntry`).
-/

namespace AppGateway

namespace StringMap

/-- Sets the value of a key in a list of entries in key order. -/
def insertEntry (key value : String) : List (String × String) → List (String × String)
  | [] => [(key, value)]
  | (k, v) :: rest =>
    if key < k then (key, value) :: (k, v) :: rest
    else if key = k then (key, value) :: rest
    else (k, v) :: insertEntry key value rest

private theorem mem_insertEntry {key value : String} {entries : List (String × String)} {e : String × String}
    (h : e ∈ insertEntry key value entries) : e = (key, value) ∨ e ∈ entries := by
  induction entries with
  | nil => simpa [insertEntry] using h
  | cons head rest ih =>
    unfold insertEntry at h
    split at h
    · simpa using h
    · split at h
      · rcases List.mem_cons.mp h with h | h
        · exact .inl h
        · exact .inr (List.mem_cons_of_mem _ h)
      · rcases List.mem_cons.mp h with rfl | h
        · exact .inr List.mem_cons_self
        · rcases ih h with h | h
          · exact .inl h
          · exact .inr (List.mem_cons_of_mem _ h)

theorem pairwise_insertEntry {key value : String} {entries : List (String × String)}
    (h : entries.Pairwise fun a b => a.1 < b.1) :
    (insertEntry key value entries).Pairwise fun a b => a.1 < b.1 := by
  induction entries with
  | nil => simp [insertEntry]
  | cons head rest ih =>
    obtain ⟨hhead, hrest⟩ := List.pairwise_cons.mp h
    unfold insertEntry
    split
    · rename_i hlt
      refine List.pairwise_cons.mpr ⟨fun e he => ?_, h⟩
      rcases List.mem_cons.mp he with rfl | he
      · exact hlt
      · exact String.lt_trans hlt (hhead e he)
    · split
      · rename_i heq
        exact List.pairwise_cons.mpr ⟨fun e he => heq ▸ hhead e he, hrest⟩
      · rename_i hlt hne
        refine List.pairwise_cons.mpr ⟨fun e he => ?_, ih hrest⟩
        rcases mem_insertEntry he with rfl | he
        · exact Std.lt_of_le_of_ne (String.not_lt.mp hlt) (Ne.symm hne)
        · exact hhead e he

end StringMap

/-- A map from text to text, its entries in key order. -/
structure StringMap where
  entries : List (String × String)
  sorted : entries.Pairwise fun a b => a.1 < b.1
deriving DecidableEq, Repr

namespace StringMap

/-- The map without entries. -/
def empty : StringMap := ⟨[], .nil⟩

instance : Inhabited StringMap := ⟨empty⟩

/-- Whether there are no entries. -/
def isEmpty (m : StringMap) : Bool := m.entries.isEmpty

/-- The value of a key. -/
def get? (m : StringMap) (key : String) : Option String := m.entries.lookup key

/-- Sets the value of a key. -/
def insert (m : StringMap) (key value : String) : StringMap :=
  ⟨insertEntry key value m.entries, pairwise_insertEntry m.sorted⟩

/-- Sets the entries of `overrides` over those of `m`. -/
def union (m overrides : StringMap) : StringMap :=
  overrides.entries.foldl (fun acc e => acc.insert e.1 e.2) m

/-- The map with the given entries, of which later ones replace earlier ones. -/
def ofList (entries : List (String × String)) : StringMap :=
  entries.foldl (fun acc e => acc.insert e.1 e.2) empty

/-- Reads an object whose values are all strings. -/
def ofJson? : Json → Option StringMap
  | .object ms => (ms.mapM fun (m : String × Json) => m.2.string?.map fun text => (m.1, text)).map ofList
  | _ => none

/-- The object with these members. -/
def toJson (m : StringMap) : Json :=
  .object (m.entries.map fun e => (e.1, .string e.2))

end StringMap

end AppGateway
