import AppGateway.Proofs.Http.Target
import AppGateway.Proofs.Text.Utf8

/-!
# Texts that stand for themselves in a path

Whoever reads a path ends a segment at a delimiter and replaces the escapes in it.  A text without the one and the
other is read as it is.

* (bytes) `percentDecode_eq_iff`: bytes stay as they are exactly if there is no escape in them;
* (segments) `decodeSegment?_eq_iff`: a segment is read as it is exactly if there is no escape in it.
-/

namespace AppGateway

namespace Http

/-- Nowhere do two hexadecimal digits follow a percent sign. -/
def EscapeFree (bytes : List Nat) : Prop :=
  ∀ a b, [0x25, a, b] <:+: bytes → hexDigit? a = none ∨ hexDigit? b = none

private theorem escapeFree_cons {b : Nat} {bytes : List Nat}
    (h : ∀ x y, [0x25, x, y] <+: b :: bytes → hexDigit? x = none ∨ hexDigit? y = none) :
    EscapeFree (b :: bytes) ↔ EscapeFree bytes := by
  simp only [EscapeFree, List.infix_cons_iff, or_imp, forall_and]
  exact and_iff_right h

/-- An escape is replaced by fewer bytes. -/
theorem percentDecode_cases (bytes : List Nat) :
    percentDecode bytes = bytes ∨ (percentDecode bytes).length < bytes.length := by
  fun_induction percentDecode bytes with
  | case1 a b rest x y hy hx ih =>
    have hle : (percentDecode rest).length ≤ rest.length := ih.elim (fun h => by rw [h]) Nat.le_of_lt
    exact .inr (by simp only [List.length_cons]; omega)
  | case2 a b rest hnone ih => exact ih.imp (congrArg _) fun h => Nat.succ_lt_succ h
  | case3 b rest hnone ih => exact ih.imp (congrArg _) fun h => Nat.succ_lt_succ h
  | case4 => exact .inl rfl

/-- Bytes stay as they are exactly if there is no escape in them. -/
theorem percentDecode_eq_iff (bytes : List Nat) : percentDecode bytes = bytes ↔ EscapeFree bytes := by
  fun_induction percentDecode bytes with
  | case1 a b rest x y hy hx ih =>
    have hshort : (x * 16 + y) :: percentDecode rest ≠ 0x25 :: a :: b :: rest := by
      intro h
      have hlength : (percentDecode rest).length + 1 = rest.length + 3 := congrArg List.length h
      rcases percentDecode_cases rest with hsame | hlt
      · rw [hsame] at hlength
        omega
      · omega
    have hescape : ¬ EscapeFree (0x25 :: a :: b :: rest) := by
      intro h
      rcases h a b ⟨[], rest, rfl⟩ with hnone | hnone
      · cases hx.symm.trans hnone
      · cases hy.symm.trans hnone
    exact iff_of_false hshort hescape
  | case2 a b rest hnone ih =>
    rw [List.cons.injEq, eq_self, true_and, ih]
    refine (escapeFree_cons ?_).symm
    rintro x y ⟨tail, htail⟩
    cases htail
    cases hx : hexDigit? a with
    | none => exact .inl rfl
    | some x => exact .inr (Option.eq_none_iff_forall_ne_some.mpr fun y hy => hnone x y hx hy)
  | case3 b rest hnone ih =>
    rw [List.cons.injEq, eq_self, true_and, ih]
    refine (escapeFree_cons ?_).symm
    rintro x y ⟨tail, htail⟩
    cases htail
    exact (hnone x y tail rfl rfl).elim
  | case4 => exact iff_of_true rfl fun a b hmem => by simp at hmem

/-- No escape is in the text. -/
def Unescaped (s : String) : Prop := EscapeFree (Utf8.encode s.toList)

/-- A part of a path is read as it is exactly if there is no escape in it. -/
theorem decodeSegment?_eq_iff (s : String) : decodeSegment? s.toList = some s ↔ Unescaped s := by
  rw [Unescaped, ← percentDecode_eq_iff, decodeSegment?]
  constructor
  · intro h
    obtain ⟨cs, hcs, rfl⟩ := Option.map_eq_some_iff.mp h
    rw [String.toList_ofList] at hcs ⊢
    have hlength := Utf8.length_encode_le hcs
    exact (percentDecode_cases _).resolve_right (Nat.not_lt.mpr hlength)
  · intro h
    rw [h, Utf8.decode?_encode]
    exact congrArg some String.ofList_toList

theorem unescaped_of_not_mem {s : String} (h : '%' ∉ s.toList) : Unescaped s := by
  intro a b hmem
  obtain ⟨c, hc, hbyte⟩ := Utf8.exists_of_mem_encode (hmem.subset List.mem_cons_self) (by decide)
  have hpercent : c = '%' := Char.toNat_inj.mp hbyte
  exact absurd (hpercent ▸ hc) h

instance (s : String) : Decidable (Unescaped s) := decidable_of_iff _ (percentDecode_eq_iff _)

/-- No character of the text ends the segment in which it stands, and none is read as part of an escape. -/
def Literal (s : String) : Prop := Undelimited s ∧ Unescaped s

instance (s : String) : Decidable (Literal s) := inferInstanceAs (Decidable (_ ∧ _))

end Http

end AppGateway
