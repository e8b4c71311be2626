import AppGateway.Proofs.Json.Members

/-!
# Values within values

`Json.at?` follows a path of keys.  Two values are compared at a path in two ways: `Json.AgreeBut` is about the members
of two objects but for some keys, and `Json.Alike` about everything, down to all depths, but for the order of members.

* (looking up) `Members.get?_of_filter`, `Members.nullable_of_once`: what is found and read of a member that occurs at
  most once;
* (comparing) `Json.AgreeBut.alikeAt_iff`: two objects that agree but for some keys are alike when they are at these.
-/

namespace AppGateway

namespace Members

variable {α : Type} {ms : Members} {key : String}

theorem get?_append (A B : Members) (key : String) : (A ++ B).get? key = (A.get? key).or (B.get? key) :=
  List.lookup_append

theorem get?_optional (k key : String) (value : Option Json) :
    (optional k value).get? key = if key = k then value else none := by
  cases value with
  | none => split <;> rfl
  | some v => exact get?_cons (k, v) [] key

theorem Avoids.get?_eq {known : List String} (h : Avoids ms known) (hk : key ∈ known) : ms.get? key = none := by
  rw [get?, List.lookup_eq_none_iff]
  intro m hm
  exact bne_iff_ne.mpr fun he => h m hm (he ▸ hk)

private theorem get?_without {known : List String} (ms : Members) (hk : key ∉ known) :
    (ms.without known).get? key = ms.get? key := by
  induction ms with
  | nil => rfl
  | cons m ms ih =>
    by_cases hm : m.1 ∈ known
    · have hne : key ≠ m.1 := fun he => hk (he ▸ hm)
      have hcons : without (m :: ms) known = without ms known := List.filter_cons_of_neg (by simpa using hm)
      rw [hcons, ih, get?_cons, if_neg hne]
    · have hcons : without (m :: ms) known = m :: without ms known := List.filter_cons_of_pos (by simpa using hm)
      rw [hcons, get?_cons, get?_cons, ih]

theorem isSome_get?_of_mem {m : String × Json} (h : m ∈ ms) : (ms.get? m.1).isSome = true := by
  rw [Option.isSome_iff_ne_none]
  intro hnone
  exact bne_iff_ne.mp (List.lookup_eq_none_iff.mp hnone m h) rfl

theorem object_of_strictMembers? {names : List String} {j : Json} (h : Json.strictMembers? names j = some ms) :
    j = .object ms ∧ ∀ n ∈ names, (ms.filter (·.1 == n)).length ≤ 1 := by
  cases j with
  | object ms' =>
    obtain ⟨rfl, hone⟩ := of_strictMembers? h
    exact ⟨rfl, hone⟩
  | _ => cases h

/-- What is read of a member that occurs at most once is read of what is found. -/
theorem read_of_once (f : Json → Option α) (default : α) (h : (ms.filter (·.1 == key)).length ≤ 1) :
    ms.read key f default = (ms.get? key).elim (some default) f :=
  read_of_filter f default (filter_eq_optional_get? h)

theorem nullable_of_once (f : Json → Option α) (h : (ms.filter (·.1 == key)).length ≤ 1) :
    ms.nullable key f = (ms.get? key).elim (some none) (Json.nullable f) :=
  read_of_once _ _ h

/-- A member that is read is found, and what is found is read. -/
theorem found_of_nullable {f : Json → Option α} {a : α} (h : (ms.filter (·.1 == key)).length ≤ 1)
    (hr : ms.nullable key f = some (some a)) : ∃ j, ms.get? key = some j ∧ f j = some a := by
  rw [nullable_of_once f h] at hr
  cases hj : ms.get? key with
  | none =>
    rw [hj] at hr
    cases hr
  | some j =>
    rw [hj] at hr
    refine ⟨j, rfl, ?_⟩
    cases j with
    | null => cases hr
    | _ => simpa [Json.nullable] using hr

theorem text_of_nullable_once {s : String} (h : (ms.filter (·.1 == key)).length ≤ 1)
    (hr : ms.nullable key Json.string? = some (some s)) : ms.get? key = some (.string s) := by
  obtain ⟨j, hj, hs⟩ := found_of_nullable h hr
  cases j with
  | string text =>
    cases hs
    exact hj
  | _ => cases hs

end Members

namespace Json

/-- The value at a path of keys. -/
def at? (j : Json) : List String → Option Json
  | [] => some j
  | key :: path => (j.member? key).bind (·.at? path)

/-- A path that goes one step on from an object. -/
theorem at?_snoc {j : Json} {path : List String} {ms : Members} (h : j.at? path = some (.object ms)) (key : String) :
    j.at? (path ++ [key]) = Members.get? ms key := by
  induction path generalizing j with
  | nil =>
    cases h
    exact Option.bind_fun_some _
  | cons k path ih =>
    obtain ⟨value, hvalue, hrest⟩ := Option.bind_eq_some_iff.mp h
    rw [List.cons_append, at?, hvalue, Option.bind_some]
    exact ih hrest

/-- At a path, two values hold objects with the same members, in the same order, but for those with the given keys. -/
def AgreeBut (known path : List String) (j j' : Json) : Prop :=
  ∃ ms ms', j.at? path = some (.object ms) ∧ j'.at? path = some (.object ms') ∧
    Members.without ms known = Members.without ms' known

/-- Two values are the same but for the order of members. -/
inductive Alike : Json → Json → Prop
  | refl (j : Json) : Alike j j
  | array {items items' : List Json} (length : items.length = items'.length)
      (item : ∀ (i : Nat) j j', items[i]? = some j → items'[i]? = some j' → Alike j j') :
      Alike (.array items) (.array items')
  | object {ms ms' : Members} (keys : ∀ key, (ms.get? key).isSome = (ms'.get? key).isSome)
      (member : ∀ key j j', ms.get? key = some j → ms'.get? key = some j' → Alike j j') :
      Alike (.object ms) (.object ms')

/-- What is found twice is alike, or there is nothing both times. -/
def BothAlike (j j' : Option Json) : Prop :=
  j.isSome = j'.isSome ∧ ∀ v v', j = some v → j' = some v' → Alike v v'

/-- At a path, two values hold what is alike, or both nothing. -/
def AlikeAt (path : List String) (j j' : Json) : Prop := BothAlike (j.at? path) (j'.at? path)

theorem BothAlike.of_eq {j j' : Option Json} (h : j = j') : BothAlike j j' := by
  subst h
  refine ⟨rfl, ?_⟩
  rintro v v' hv hv'
  cases hv.symm.trans hv'
  exact .refl v

theorem bothAlike_some_iff {v v' : Json} : BothAlike (some v) (some v') ↔ Alike v v' := by
  refine ⟨fun h => h.2 v v' rfl rfl, fun h => ⟨rfl, ?_⟩⟩
  rintro _ _ ⟨⟩ ⟨⟩
  exact h

theorem Alike.members {j j' : Json} (h : Alike j j') (key : String) : BothAlike (j.member? key) (j'.member? key) := by
  cases h with
  | refl => exact .of_eq rfl
  | array => exact .of_eq rfl
  | object keys member => exact ⟨keys key, member key⟩

/-- What is alike to an object is one. -/
theorem Alike.object_left {j : Json} {ms' : Members} (h : Alike j (.object ms')) : ∃ ms, j = .object ms := by
  cases h with
  | refl => exact ⟨ms', rfl⟩
  | object => exact ⟨_, rfl⟩

/-- Two objects are alike when they agree but for some keys, and are alike at these keys. -/
theorem Alike.of_members {ms ms' : Members} {known : List String}
    (hothers : Members.without ms known = Members.without ms' known)
    (hknown : ∀ key ∈ known, BothAlike (Members.get? ms key) (Members.get? ms' key)) :
    Alike (.object ms) (.object ms') := by
  have hall : ∀ key, BothAlike (Members.get? ms key) (Members.get? ms' key) := by
    intro key
    by_cases hk : key ∈ known
    · exact hknown key hk
    · rw [← Members.get?_without ms hk, ← Members.get?_without ms' hk, hothers]
      exact .of_eq rfl
  exact .object (fun key => (hall key).1) fun key => (hall key).2

/-- At a path where two values agree but for some keys, they are alike just when they are at these keys. -/
theorem AgreeBut.alikeAt_iff {j j' : Json} {path known : List String} (h : AgreeBut known path j j') :
    AlikeAt path j j' ↔ ∀ key ∈ known, AlikeAt (path ++ [key]) j j' := by
  obtain ⟨ms, ms', hms, hms', hothers⟩ := h
  simp only [AlikeAt, at?_snoc hms, at?_snoc hms']
  rw [hms, hms', bothAlike_some_iff]
  exact ⟨fun halike key _ => halike.members key, Alike.of_members hothers⟩

end Json

end AppGateway
