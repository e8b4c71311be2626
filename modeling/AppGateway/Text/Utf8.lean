/-!
# UTF-8

Bytes are natural numbers below 256.  `Utf8.decode?` reads bytes that are UTF-8 throughout; `Utf8.decodeLossy` puts a
replacement character in place of each part that is not.
-/

namespace AppGateway

namespace Utf8

/-- The bytes of a character. -/
def encodeChar (c : Char) : List Nat :=
  let n := c.toNat
  if n < 0x80 then [n]
  else if n < 0x800 then [0xC0 + n / 0x40, 0x80 + n % 0x40]
  else if n < 0x10000 then [0xE0 + n / 0x1000, 0x80 + n / 0x40 % 0x40, 0x80 + n % 0x40]
  else [0xF0 + n / 0x40000, 0x80 + n / 0x1000 % 0x40, 0x80 + n / 0x40 % 0x40, 0x80 + n % 0x40]

/-- The bytes of a text. -/
def encode (cs : List Char) : List Nat :=
  cs.flatMap encodeChar

/-- What a first byte promises: its bits, and the range of each byte to follow. -/
def lead? (b : Nat) : Option (Nat × List (Nat × Nat)) :=
  let any := (0x80, 0xBF)
  if b < 0x80 then some (b, [])
  else if 0xC2 ≤ b ∧ b ≤ 0xDF then some (b - 0xC0, [any])
  else if b = 0xE0 then some (0, [(0xA0, 0xBF), any])
  else if b = 0xED then some (0xD, [(0x80, 0x9F), any])
  else if 0xE1 ≤ b ∧ b ≤ 0xEF then some (b - 0xE0, [any, any])
  else if b = 0xF0 then some (0, [(0x90, 0xBF), any, any])
  else if 0xF1 ≤ b ∧ b ≤ 0xF3 then some (b - 0xF0, [any, any, any])
  else if b = 0xF4 then some (4, [(0x80, 0x8F), any, any])
  else none

/-- Takes the bytes that are to follow a first byte; no code point when one of them is not as promised. -/
def follow (n : Nat) : List (Nat × Nat) → List Nat → Option Nat × List Nat
  | [], bytes => (some n, bytes)
  | (least, greatest) :: ranges, b :: bytes =>
    if least ≤ b ∧ b ≤ greatest then follow (n * 0x40 + (b - 0x80)) ranges bytes else (none, b :: bytes)
  | _ :: _, [] => (none, [])

private theorem length_follow (n : Nat) (ranges : List (Nat × Nat)) (bytes : List Nat) :
    (follow n ranges bytes).2.length ≤ bytes.length := by
  induction ranges generalizing n bytes with
  | nil => simp [follow]
  | cons r ranges ih =>
    cases bytes with
    | nil => simp [follow]
    | cons b bytes =>
      simp only [follow]
      split
      · exact Nat.le_succ_of_le (ih _ _)
      · simp

/-- Reads bytes as characters, no character standing for each part that is not UTF-8. -/
def decodeParts (bytes : List Nat) : List (Option Char) :=
  match bytes with
  | [] => []
  | b :: rest =>
    match lead? b with
    | none => none :: decodeParts rest
    | some (n, ranges) =>
      have : (follow n ranges rest).2.length < rest.length + 1 := Nat.lt_succ_of_le (length_follow n ranges rest)
      (follow n ranges rest).1.map Char.ofNat :: decodeParts (follow n ranges rest).2
termination_by bytes.length

/-- Reads bytes that are UTF-8 throughout. -/
def decode? (bytes : List Nat) : Option (List Char) :=
  (decodeParts bytes).mapM id

/-- Reads bytes, with a replacement character for each part that is not UTF-8. -/
def decodeLossy (bytes : List Nat) : List Char :=
  (decodeParts bytes).map (·.getD '\uFFFD')

end Utf8

end AppGateway
