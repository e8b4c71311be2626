import AppGateway.Text.Utf8
import Mathlib.Algebra.Group.Nat.Defs
import Mathlib.Tactic.SplitIfs

/-!
# UTF-8 is read back

* (characters) `decodeParts_encodeChar`: the bytes of a character are read as this character, whatever follows;
* (texts) `decode?_encode`: the bytes of a text are read as this text;
* (plain bytes) `exists_of_mem_encode`: the bytes below 128 are characters of their own;
* (length) `length_encode_le`: bytes that are read as a text are no fewer than those of the text.
-/

namespace AppGateway

namespace Utf8

theorem encode_append (cs ds : List Char) : encode (cs ++ ds) = encode cs ++ encode ds := List.flatMap_append

section

variable {n m least greatest : Nat} {rest : List Nat}

/-- A byte that is in the range of the next byte is taken. -/
theorem follow_cons {b : Nat} (h : least ≤ b ∧ b ≤ greatest) (ranges : List (Nat × Nat)) (bytes : List Nat) :
    follow n ((least, greatest) :: ranges) (b :: bytes) = follow (n * 0x40 + (b - 0x80)) ranges bytes :=
  if_pos h

private theorem follow_last : follow n [(0x80, 0xBF)] ((0x80 + m % 0x40) :: rest) =
    (some (n * 0x40 + m % 0x40), rest) := by
  rw [follow_cons (by omega), Nat.add_sub_cancel_left, follow]

private theorem follow_two (h : least ≤ 0x80 + m / 0x40 % 0x40 ∧ 0x80 + m / 0x40 % 0x40 ≤ greatest) :
    follow n [(least, greatest), (0x80, 0xBF)] ((0x80 + m / 0x40 % 0x40) :: (0x80 + m % 0x40) :: rest) =
      (some ((n * 0x40 + m / 0x40 % 0x40) * 0x40 + m % 0x40), rest) := by
  rw [follow_cons h, Nat.add_sub_cancel_left, follow_last]

private theorem follow_three (h : least ≤ 0x80 + m / 0x1000 % 0x40 ∧ 0x80 + m / 0x1000 % 0x40 ≤ greatest) :
    follow n [(least, greatest), (0x80, 0xBF), (0x80, 0xBF)]
        ((0x80 + m / 0x1000 % 0x40) :: (0x80 + m / 0x40 % 0x40) :: (0x80 + m % 0x40) :: rest) =
      (some (((n * 0x40 + m / 0x1000 % 0x40) * 0x40 + m / 0x40 % 0x40) * 0x40 + m % 0x40), rest) := by
  rw [follow_cons h, Nat.add_sub_cancel_left, follow_two (by omega)]

end

/-- The bytes of a character are read as this character. -/
theorem decodeParts_encodeChar (c : Char) (rest : List Nat) :
    decodeParts (encodeChar c ++ rest) = some c :: decodeParts rest := by
  have hvalid : c.toNat < 0xD800 ∨ 0xDFFF < c.toNat ∧ c.toNat < 0x110000 := c.valid
  have hread {b n k : Nat} {ranges : List (Nat × Nat)} {bytes : List Nat} (hlead : lead? b = some (n, ranges))
      (hfollow : follow n ranges (bytes ++ rest) = (some k, rest)) (hk : k = c.toNat) :
      decodeParts (b :: bytes ++ rest) = some c :: decodeParts rest := by
    rw [List.cons_append, decodeParts, hlead]
    simp only [hfollow, Option.map_some, hk, Char.ofNat_toNat]
  simp only [encodeChar]
  generalize hm : c.toNat = m at *
  split
  · rename_i h
    exact hread (if_pos h) rfl rfl
  · split
    · have hlead : lead? (0xC0 + m / 0x40) = some (m / 0x40, [(0x80, 0xBF)]) := by
        rw [lead?, if_neg (by omega), if_pos (by omega), Nat.add_sub_cancel_left]
      exact hread hlead follow_last (by omega)
    · split
      · -- The least and the greatest first bytes, and that of the surrogates, narrow the range of the second one.
        by_cases hlow : m / 0x1000 = 0
        · rw [hlow]
          exact hread rfl (follow_two (by omega)) (by omega)
        · by_cases hsurrogates : m / 0x1000 = 0xD
          · rw [hsurrogates]
            exact hread rfl (follow_two (by omega)) (by omega)
          · have hlead : lead? (0xE0 + m / 0x1000) = some (m / 0x1000, [(0x80, 0xBF), (0x80, 0xBF)]) := by
              rw [lead?, if_neg (by omega), if_neg (by omega), if_neg (by omega), if_neg (by omega), if_pos (by omega),
                Nat.add_sub_cancel_left]
            exact hread hlead (follow_two (by omega)) (by omega)
      · by_cases hlow : m / 0x40000 = 0
        · rw [hlow]
          exact hread rfl (follow_three (by omega)) (by omega)
        · by_cases hhigh : m / 0x40000 = 4
          · rw [hhigh]
            exact hread rfl (follow_three (by omega)) (by omega)
          · have hlead : lead? (0xF0 + m / 0x40000) =
                some (m / 0x40000, [(0x80, 0xBF), (0x80, 0xBF), (0x80, 0xBF)]) := by
              rw [lead?, if_neg (by omega), if_neg (by omega), if_neg (by omega), if_neg (by omega), if_neg (by omega),
                if_neg (by omega), if_pos (by omega), Nat.add_sub_cancel_left]
            exact hread hlead (follow_three (by omega)) (by omega)

/-- The bytes of a text are read as this text. -/
theorem decode?_encode (cs : List Char) : decode? (encode cs) = some cs := by
  have hparts : decodeParts (encode cs) = cs.map some := by
    induction cs with
    | nil => rw [encode, List.flatMap_nil, decodeParts, List.map_nil]
    | cons c cs ih =>
      rw [encode, List.flatMap_cons, decodeParts_encodeChar, ← encode, ih, List.map_cons]
  rw [decode?, hparts, List.mapM_map]
  exact (List.mapM_pure (m := Option)).trans (congrArg some (List.map_id cs))

/-- A byte below 128 is a character of its own. -/
theorem exists_of_mem_encode {cs : List Char} {b : Nat} (h : b ∈ encode cs) (hb : b < 0x80) :
    ∃ c ∈ cs, c.toNat = b := by
  obtain ⟨c, hc, hmem⟩ := List.mem_flatMap.mp h
  refine ⟨c, hc, ?_⟩
  rw [encodeChar] at hmem
  split_ifs at hmem <;> simp only [List.mem_cons, List.not_mem_nil, or_false] at hmem <;> omega

/-- Only the bytes of control characters are below 32. -/
theorem printable_encode {cs : List Char} (h : ∀ c ∈ cs, 0x20 ≤ c.toNat) : ∀ b ∈ encode cs, 0x20 ≤ b := by
  intro b hb
  rcases Nat.lt_or_ge b 0x20 with hlow | hhigh
  · obtain ⟨c, hc, rfl⟩ := exists_of_mem_encode hb (by omega)
    exact h c hc
  · exact hhigh

/-! ### The number of bytes -/

/-- What was promised by a first byte is taken, and each byte that follows it adds six bits. -/
private theorem of_follow {n k : Nat} {ranges : List (Nat × Nat)} {bytes : List Nat}
    (hranges : ∀ r ∈ ranges, r.2 ≤ 0xBF) (h : (follow n ranges bytes).1 = some k) :
    k < (n + 1) * 0x40 ^ ranges.length ∧ (follow n ranges bytes).2.length + ranges.length = bytes.length := by
  induction ranges generalizing n bytes with
  | nil =>
    cases h
    exact ⟨by simp, rfl⟩
  | cons r ranges ih =>
    obtain ⟨hr, hranges⟩ := List.forall_mem_cons.mp hranges
    cases bytes with
    | nil => cases h
    | cons b bytes =>
      rw [follow] at h ⊢
      split at h
      · rename_i hb
        obtain ⟨hk, hlength⟩ := ih hranges h
        rw [if_pos hb]
        refine ⟨Nat.lt_of_lt_of_le hk ?_, by rw [List.length_cons, List.length_cons, ← hlength, Nat.add_assoc]⟩
        rw [List.length_cons, Nat.pow_succ', ← Nat.mul_assoc]
        exact Nat.mul_le_mul_right _ (by omega)
      · cases h

/-- The bits in a first byte, and the number of bytes that it promises. -/
private theorem of_lead? {b n : Nat} {ranges : List (Nat × Nat)} (h : lead? b = some (n, ranges)) :
    (∀ r ∈ ranges, r.2 ≤ 0xBF) ∧ (ranges.length = 0 ∧ n < 0x80 ∨ ranges.length = 1 ∧ n < 0x20 ∨
      ranges.length = 2 ∧ n < 0x10 ∨ ranges.length = 3) := by
  simp only [lead?] at h
  split_ifs at h <;> obtain ⟨rfl, rfl⟩ := Prod.mk.inj (Option.some.inj h) <;> simp <;> omega

private theorem toNat_ofNat_le (k : Nat) : (Char.ofNat k).toNat ≤ k := by
  by_cases h : k.isValidChar
  · have hchar : Char.ofNat k = Char.ofNatAux k h := dif_pos h
    rw [hchar]
    exact Nat.le_refl k
  · have hnull : Char.ofNat k = Char.ofNat 0 := dif_neg h
    rw [hnull]
    exact Nat.zero_le k

private theorem length_encodeChar_le {c : Char} {r : Nat} (h : r = 0 ∧ c.toNat < 0x80 ∨ r = 1 ∧ c.toNat < 0x800 ∨
    r = 2 ∧ c.toNat < 0x10000 ∨ r = 3) : (encodeChar c).length ≤ r + 1 := by
  rw [encodeChar]
  split_ifs <;> simp <;> omega

private theorem decodeParts_of_decode? {bytes : List Nat} {cs : List Char} (h : decode? bytes = some cs) :
    decodeParts bytes = cs.map some := by
  rw [decode?] at h
  generalize decodeParts bytes = parts at h ⊢
  induction parts generalizing cs with
  | nil =>
    cases h
    rfl
  | cons part parts ih =>
    rw [List.mapM_cons] at h
    obtain ⟨c, hc, h⟩ := Option.bind_eq_some_iff.mp h
    obtain ⟨rest, hrest, h⟩ := Option.bind_eq_some_iff.mp h
    cases h
    rw [ih hrest, List.map_cons, ← hc, id]

/-- The bytes that are read as a text are no fewer than those of the text. -/
theorem length_encode_le {bytes : List Nat} {cs : List Char} (h : decode? bytes = some cs) :
    (encode cs).length ≤ bytes.length := by
  replace h := decodeParts_of_decode? h
  fun_induction decodeParts bytes generalizing cs with
  | case1 =>
    rw [List.map_eq_nil_iff.mp h.symm]
    exact Nat.le_refl _
  | case2 b rest hlead ih =>
    cases cs <;> cases h
  | case3 b rest n ranges hlead hlt ih =>
    cases cs with
    | nil => cases h
    | cons c cs =>
      rw [List.map_cons, List.cons.injEq] at h
      obtain ⟨hc, hrest⟩ := h
      obtain ⟨k, hk, rfl⟩ := Option.map_eq_some_iff.mp hc
      obtain ⟨hranges, hbits⟩ := of_lead? hlead
      obtain ⟨hbound, hlength⟩ := of_follow hranges hk
      have hchar : (encodeChar (Char.ofNat k)).length ≤ ranges.length + 1 := by
        have hle := toNat_ofNat_le k
        refine length_encodeChar_le ?_
        rcases hbits with ⟨hr, hn⟩ | ⟨hr, hn⟩ | ⟨hr, hn⟩ | hr <;> rw [hr] at hbound ⊢ <;> omega
      have := ih hrest
      rw [encode, List.flatMap_cons, List.length_append, List.length_cons, ← hlength]
      rw [encode] at this
      omega

end Utf8

end AppGateway
