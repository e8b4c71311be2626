/-!
# Powers and words

The powers of two and ten that number formats are built on, and the integers that words of a number of bits hold.
-/

namespace AppGateway

/-- A power of two. -/
def twoPow (k : Nat) : Nat := Nat.pow 2 k

/-- A power of ten. -/
def tenPow (k : Nat) : Nat := Nat.pow 10 k

namespace Word

/-- Whether a signed word of so many bits holds an integer. -/
def holdsSigned (bits : Nat) (n : Int) : Bool :=
  -(twoPow (bits - 1) : Int) ≤ n && n < twoPow (bits - 1)

/-- Whether an unsigned word of so many bits holds an integer. -/
def holdsUnsigned (bits : Nat) (n : Int) : Bool :=
  0 ≤ n && n < twoPow bits

/-- Whether a word of 64 bits holds an integer, be it a signed or an unsigned one. -/
def holds64 (n : Int) : Bool := holdsSigned 64 n || holdsUnsigned 64 n

theorem holds64_iff {n : Int} : holds64 n = true ↔ -(twoPow 63 : Int) ≤ n ∧ n < twoPow 64 := by
  have hbits : twoPow 63 ≤ twoPow 64 := by decide
  simp only [holds64, holdsSigned, holdsUnsigned, Bool.or_eq_true, Bool.and_eq_true, decide_eq_true_eq]
  show (-(twoPow 63 : Int) ≤ n ∧ n < twoPow 63) ∨ (0 ≤ n ∧ n < twoPow 64) ↔ _
  omega

end Word

end AppGateway
