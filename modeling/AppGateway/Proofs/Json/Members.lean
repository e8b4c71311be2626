import AppGateway.Json.Read

/-!
# Members of objects

How setting, erasing and reading members go together.

* (reading) a reader of a member depends only on the members with its key, so `read_of_filter` reads it off a list
  in which the key occurs at most once;
* (setting) `get?_set_self`, `get?_set_of_ne` and `set_append` say what `Members.set` does to a list in any order;
* (order) setting and erasing keep members in key order (`Ordered.set`, `Ordered.erase`).
-/

namespace AppGateway

/-- What a reader gives for every item holds of every item read. -/
theorem forall_of_mapM {α β : Type} {f : α → Option β} {P : β → Prop} {xs : List α} {ys : List β}
    (h : ∀ x ∈ xs, ∀ y, f x = some y → P y) (hys : xs.mapM f = some ys) : ∀ y ∈ ys, P y := by
  induction xs generalizing ys with
  | nil =>
    cases hys
    simp
  | cons x xs ih =>
    rw [List.mapM_cons, Option.bind_eq_bind, Option.bind_eq_some_iff] at hys
    obtain ⟨y, hy, hys⟩ := hys
    rw [Option.bind_eq_bind, Option.bind_eq_some_iff] at hys
    obtain ⟨rest, hrest, hys⟩ := hys
    cases hys
    intro z hz
    rcases List.mem_cons.mp hz with rfl | hz
    · exact h x (by simp) z hy
    · exact ih (fun x' hx' => h x' (by simp [hx'])) hrest z hz

theorem lookup_entry_cons {α : Type} (e : String × α) (entries : List (String × α)) (key : String) :
    (e :: entries).lookup key = if key = e.1 then some e.2 else entries.lookup key := by
  obtain ⟨k, a⟩ := e
  by_cases h : key = k
  · simp [h]
  · have hb : (key == k) = false := beq_eq_false_iff_ne.mpr h
    simp [List.lookup_cons, h, hb]

namespace Members

variable {α : Type}

/-! ### Reading -/

/-- What is read of a member is the default, or is read of a value. -/
theorem of_read {ms : Members} {key : String} {f : Json → Option α} {default a : α}
    (h : ms.read key f default = some a) : a = default ∨ ∃ j, f j = some a := by
  obtain ⟨values, hvalues, rfl⟩ := Option.map_eq_some_iff.mp h
  have hall : ∀ v ∈ values, ∃ j, f j = some v := forall_of_mapM (fun m _ v hv => ⟨m.2, hv⟩) hvalues
  cases hlast : values.getLast? with
  | none => exact .inl rfl
  | some v => exact .inr (hall v (List.mem_of_getLast? hlast))

/-- What is read of a member that may be null is read of a value. -/
theorem of_nullable {ms : Members} {key : String} {f : Json → Option α} {a : α}
    (h : ms.nullable key f = some (some a)) : ∃ j, f j = some a := by
  rcases of_read h with h | ⟨j, hj⟩
  · cases h
  · cases j with
    | null => cases hj
    | _ => exact ⟨_, by simpa [Json.nullable] using hj⟩

@[simp] theorem optional_none (key : String) : optional key none = [] := rfl

@[simp] theorem optional_some (key : String) (value : Json) : optional key (some value) = [(key, value)] := rfl

theorem filter_optional (k key : String) (value : Option Json) :
    (optional k value).filter (·.1 == key) = if k = key then optional k value else [] := by
  cases value <;> by_cases h : k = key <;> simp [h]

theorem optional_inj {key : String} {v v' : Option Json} (h : optional key v = optional key v') : v = v' := by
  cases v <;> cases v' <;> simp_all

/-- A statement about keys holds of an optional member when it holds of its key. -/
theorem forall_mem_optional {P : String → Prop} {key : String} (value : Option Json) (h : P key) :
    ∀ m ∈ optional key value, P m.1 := by
  cases value with
  | none => simp
  | some v => simpa using h

/-- What is read of a member that occurs at most once. -/
theorem read_of_filter {ms : Members} {key : String} {value : Option Json} (f : Json → Option α) (default : α)
    (h : ms.filter (·.1 == key) = optional key value) :
    ms.read key f default = value.elim (some default) f := by
  cases value with
  | none => simp [read, h]
  | some j => cases hf : f j <;> simp [read, h, hf]

/-- What is read of a key that occurs once is what is read of its value. -/
theorem read_of_filter_some {ms : Members} {key : String} {j : Json} (f : Json → Option α) (default : α)
    (h : ms.filter (·.1 == key) = optional key (some j)) : ms.read key f default = f j := by
  rw [read_of_filter f default h, Option.elim_some]

theorem nullable_of_filter {ms : Members} {key : String} {value : Option Json} (f : Json → Option α)
    (h : ms.filter (·.1 == key) = optional key value) :
    ms.nullable key f = value.elim (some none) (Json.nullable f) :=
  read_of_filter _ _ h

/-- A member whose written form is read back gives its value. -/
theorem nullable_of_reread {ms : Members} {key : String} {value : Option α} {write : α → Json} {f : Json → Option α}
    (h : ms.filter (·.1 == key) = optional key (value.map write))
    (hf : ∀ a, value = some a → Json.nullable f (write a) = some (some a)) :
    ms.nullable key f = some value := by
  rw [nullable_of_filter f h]
  cases value with
  | none => rfl
  | some a => exact hf a rfl

theorem nullable_text {ms : Members} {key : String} {value : Option String}
    (h : ms.filter (·.1 == key) = optional key (value.map .string)) : ms.nullable key Json.string? = some value :=
  nullable_of_reread h fun _ _ => rfl

/-- A member that may be null is never read as null. -/
theorem nullable_any_ne_null {ms : Members} {key : String} {value : Option Json}
    (h : ms.nullable key Json.any = some value) : value ≠ some .null := by
  rcases of_read h with rfl | ⟨j, hj⟩
  · simp
  · rintro rfl
    cases j <;> simp [Json.nullable, Json.any] at hj

/-- A value that is kept as it is, when a null counts as none. -/
def dropNull : Option Json → Option Json
  | some .null => none
  | value => value

theorem dropNull_ne_null (value : Option Json) : dropNull value ≠ some .null := by
  rcases value with _ | j
  · simp [dropNull]
  · cases j <;> simp [dropNull]

theorem dropNull_of_ne {value : Option Json} (h : value ≠ some .null) : dropNull value = value := by
  rcases value with _ | j
  · rfl
  · cases j with
    | null => exact absurd rfl h
    | _ => rfl

theorem nullable_dropNull {ms : Members} {key : String} {value : Option Json}
    (h : ms.filter (·.1 == key) = optional key value) : ms.nullable key Json.any = some (dropNull value) := by
  rw [nullable_of_filter _ h]
  rcases value with _ | j
  · rfl
  · cases j <;> rfl

theorem nullable_any {ms : Members} {key : String} {value : Option Json} (hv : value ≠ some .null)
    (h : ms.filter (·.1 == key) = optional key value) : ms.nullable key Json.any = some value := by
  rw [nullable_dropNull h, dropNull_of_ne hv]

/-- What is read of the written form of a member that may be missing. -/
theorem of_nullable_written {β : Type} {ms : Members} {key : String} {value : Option β} {write : β → Json}
    {f : Json → Option α} {a : α} (h : ms.filter (·.1 == key) = optional key (value.map write))
    (hr : ms.nullable key f = some (some a)) : ∃ b, value = some b ∧ Json.nullable f (write b) = some (some a) := by
  rw [nullable_of_filter f h] at hr
  cases value with
  | none => cases hr
  | some b => exact ⟨b, rfl, hr⟩

theorem length_optional_le (key : String) (value : Option Json) : (optional key value).length ≤ 1 := by
  cases value <;> simp

/-! ### Members outside a list of keys -/

/-- No member has one of the given keys. -/
def Avoids (ms : Members) (known : List String) : Prop := ∀ m ∈ ms, m.1 ∉ known

theorem avoids_nil (known : List String) : Avoids [] known := by simp [Avoids]

theorem avoids_without (ms : Members) (known : List String) : Avoids (ms.without known) known := by
  intro m hm
  simpa using (List.mem_filter.mp hm).2

theorem Avoids.without_eq {ms : Members} {known : List String} (h : Avoids ms known) : ms.without known = ms := by
  rw [without, List.filter_eq_self]
  intro m hm
  simpa using h m hm

theorem Avoids.filter_eq {ms : Members} {known : List String} (h : Avoids ms known) {key : String} (hk : key ∈ known) :
    ms.filter (·.1 == key) = [] := by
  rw [List.filter_eq_nil_iff]
  intro m hm he
  exact h m hm (beq_iff_eq.mp he ▸ hk)

theorem without_append (A B : Members) (known : List String) :
    (A ++ B).without known = A.without known ++ B.without known :=
  List.filter_append ..

theorem without_optional {key : String} {known : List String} (value : Option Json) (h : key ∈ known) :
    (optional key value).without known = [] := by
  rw [without, List.filter_eq_nil_iff]
  intro m hm
  simpa using forall_mem_optional (P := (· ∈ known)) value h m hm

/-- Members that have each named key at most once can be read from an object. -/
theorem strictMembers?_object {ms : Members} {names : List String}
    (h : ∀ n ∈ names, ∃ value, ms.filter (·.1 == n) = optional n value) :
    Json.strictMembers? names (.object ms) = some ms := by
  have hall : (names.all fun n => decide ((ms.filter (·.1 == n)).length ≤ 1)) = true := by
    rw [List.all_eq_true]
    intro n hn
    obtain ⟨value, hv⟩ := h n hn
    simpa [hv] using length_optional_le n value
  simp only [Json.strictMembers?, Json.fields?, hall, if_true]

/-- In an object that is read strictly each known key occurs at most once. -/
theorem of_strictMembers? {ms ms' : Members} {names : List String}
    (h : Json.strictMembers? names (.object ms) = some ms') :
    ms' = ms ∧ ∀ n ∈ names, (ms.filter (·.1 == n)).length ≤ 1 := by
  simp only [Json.strictMembers?, Json.fields?] at h
  split at h
  · rename_i hall
    refine ⟨(Option.some.inj h).symm, fun n hn => ?_⟩
    exact of_decide_eq_true (List.all_eq_true.mp hall n hn)
  · cases h

/-- The one member with its key. -/
theorem filter_of_mem {ms : Members} {key : String} {v : Json} (hm : (key, v) ∈ ms)
    (h : (ms.filter (·.1 == key)).length ≤ 1) : ms.filter (·.1 == key) = optional key (some v) := by
  have hmem : (key, v) ∈ ms.filter (·.1 == key) := List.mem_filter.mpr ⟨hm, by simp⟩
  obtain ⟨m, hone⟩ := List.length_eq_one_iff.mp (Nat.le_antisymm h (List.length_pos_of_mem hmem))
  rw [hone] at hmem ⊢
  rw [optional_some, List.mem_singleton.mp hmem]

/-! ### Setting -/

theorem get?_cons (m : String × Json) (ms : Members) (key : String) :
    get? (m :: ms) key = if key = m.1 then some m.2 else get? ms key :=
  lookup_entry_cons m ms key

/-- A key that occurs at most once is found where it occurs. -/
theorem filter_eq_optional_get? {ms : Members} {key : String} (h : (ms.filter (·.1 == key)).length ≤ 1) :
    ms.filter (·.1 == key) = optional key (ms.get? key) := by
  induction ms with
  | nil => rfl
  | cons m ms ih =>
    rw [get?_cons]
    by_cases he : key = m.1
    · subst he
      have hnone : ms.filter (·.1 == m.1) = [] := by
        simpa [List.filter_cons_of_pos] using h
      rw [List.filter_cons_of_pos (by simp), hnone, if_pos rfl, optional_some]
    · have hcons : (m :: ms).filter (·.1 == key) = ms.filter (·.1 == key) :=
        List.filter_cons_of_neg (by simpa using Ne.symm he)
      rw [hcons] at h ⊢
      rw [if_neg he, ih h]

@[simp] theorem get?_set_self (ms : Members) (key : String) (v : Json) : (ms.set key v).get? key = some v := by
  induction ms with
  | nil => simp [set, get?_cons]
  | cons m ms ih =>
    unfold set
    split
    · simp [get?_cons]
    · rename_i hne
      split
      · simp [get?_cons]
      · simpa [get?_cons, hne] using ih

theorem get?_set_of_ne (ms : Members) {key k : String} (v : Json) (h : k ≠ key) :
    (ms.set key v).get? k = ms.get? k := by
  induction ms with
  | nil => simp [set, get?_cons, h]
  | cons m ms ih =>
    unfold set
    split
    · rename_i he
      subst he
      simp [get?_cons, h]
    · split
      · simp [get?_cons, h]
      · simp [get?_cons, ih]

@[simp] theorem get?_erase_self (ms : Members) (key : String) : (ms.erase key).get? key = none := by
  rw [get?, List.lookup_eq_none_iff]
  intro m hm
  have hne : m.1 ≠ key := by simpa using (List.mem_filter.mp hm).2
  simpa using Ne.symm hne

theorem get?_erase_of_ne (ms : Members) {key k : String} (h : k ≠ key) : (ms.erase key).get? k = ms.get? k := by
  induction ms with
  | nil => rfl
  | cons m ms ih =>
    by_cases he : m.1 = key
    · have hk : k ≠ m.1 := fun hk => h (hk.trans he)
      have hcons : erase (m :: ms) key = erase ms key := by simp [erase, he]
      rw [hcons, get?_cons, ih]
      simp [hk]
    · have hcons : erase (m :: ms) key = m :: erase ms key := by simp [erase, he]
      rw [hcons, get?_cons, get?_cons, ih]

/-- Setting a member passes over members with smaller keys. -/
theorem set_append {A : Members} (B : Members) (key : String) (v : Json) (h : ∀ m ∈ A, m.1 < key) :
    (A ++ B).set key v = A ++ B.set key v := by
  induction A with
  | nil => rfl
  | cons m A ih =>
    have hm : m.1 < key := h m (by simp)
    have hne : key ≠ m.1 := fun he => String.lt_irrefl _ (he ▸ hm)
    have hlt : ¬ key < m.1 := fun hk => String.lt_irrefl _ (String.lt_trans hk hm)
    simp [set, hne, hlt, ih fun m hm => h m (by simp [hm])]

theorem set_optional_append {k key : String} (value : Option Json) (B : Members) (v : Json) (h : k < key) :
    (optional k value ++ B).set key v = optional k value ++ B.set key v :=
  set_append B key v (forall_mem_optional (P := (· < key)) value h)

/-! ### Order -/

/-- Members in strictly increasing order of their keys. -/
def Ordered (ms : Members) : Prop := ms.Pairwise fun a b => a.1 < b.1

private theorem key_of_mem_set {ms : Members} {key : String} {v : Json} {m : String × Json} (h : m ∈ ms.set key v) :
    m.1 = key ∨ m ∈ ms := by
  induction ms with
  | nil =>
    simp only [set, List.mem_singleton] at h
    simp [h]
  | cons m' ms ih =>
    unfold set at h
    split at h
    · rcases List.mem_cons.mp h with rfl | h
      · exact .inl rfl
      · exact .inr (by simp [h])
    · split at h
      · rcases List.mem_cons.mp h with rfl | h
        · exact .inl rfl
        · exact .inr h
      · rcases List.mem_cons.mp h with rfl | h
        · exact .inr (by simp)
        · rcases ih h with h | h
          · exact .inl h
          · exact .inr (by simp [h])

theorem Ordered.set {ms : Members} (h : Ordered ms) (key : String) (v : Json) : Ordered (ms.set key v) := by
  induction ms with
  | nil => simp [Members.set, Ordered]
  | cons m ms ih =>
    obtain ⟨hm, hms⟩ := List.pairwise_cons.mp h
    unfold Members.set
    split
    · rename_i he
      exact List.pairwise_cons.mpr ⟨fun x hx => by rw [he]; exact hm x hx, hms⟩
    · rename_i hne
      split
      · rename_i hlt
        refine List.pairwise_cons.mpr ⟨fun x hx => ?_, h⟩
        rcases List.mem_cons.mp hx with rfl | hx
        · exact hlt
        · exact String.lt_trans hlt (hm x hx)
      · rename_i hlt
        refine List.pairwise_cons.mpr ⟨fun x hx => ?_, ih hms⟩
        rcases key_of_mem_set hx with hk | hx
        · rw [hk]
          exact Std.lt_of_le_of_ne (String.not_lt.mp hlt) (Ne.symm hne)
        · exact hm x hx

theorem Ordered.erase {ms : Members} (h : Ordered ms) (key : String) : Ordered (ms.erase key) :=
  h.filter _

/-- In key order a key occurs at most once. -/
private theorem Ordered.length_filter_le {ms : Members} (h : Ordered ms) (key : String) :
    (ms.filter (·.1 == key)).length ≤ 1 := by
  have hpair : (ms.filter (·.1 == key)).Pairwise fun a b => a.1 < b.1 := h.filter _
  have hkeys : ∀ m ∈ ms.filter (·.1 == key), m.1 = key := fun m hm => by simpa using (List.mem_filter.mp hm).2
  generalize ms.filter (·.1 == key) = found at hpair hkeys ⊢
  match found with
  | [] => simp
  | [_] => simp
  | m :: m' :: rest =>
    have hlt : m.1 < m'.1 := (List.pairwise_cons.mp hpair).1 m' (by simp)
    rw [hkeys m (by simp), hkeys m' (by simp)] at hlt
    exact absurd hlt (String.lt_irrefl _)

/-- In key order, a key occurs at most once. -/
theorem Ordered.filter_key {ms : Members} (h : Ordered ms) (key : String) :
    ms.filter (·.1 == key) = optional key (ms.get? key) :=
  filter_eq_optional_get? (h.length_filter_le key)

/-- Members listed in the order of given keys, some of them left out, are in key order when the given keys are. -/
theorem ordered_of_sublist {ms : Members} {keys : List String} (hs : (ms.map (·.1)).Sublist keys)
    (hk : keys.Pairwise (· < ·)) : Ordered ms :=
  List.pairwise_map.mp (hk.sublist hs)

theorem optional_sublist (key : String) (value : Option Json) :
    ((optional key value).map (·.1)).Sublist [key] := by
  cases value <;> simp

end Members

end AppGateway
