import AppGateway.Json.Source

/-!
# Socket addresses

An address is four decimal numbers with points, or in brackets up to eight hexadecimal groups with colons, of which one
run of zeros may be left out and the last two may be written as four decimal numbers; a colon and the number of the
service follow.
-/

namespace AppGateway

/-- The address of a host. -/
inductive HostAddress where
  | v4 (parts : List Nat)
  | v6 (groups : List Nat) (zone : Nat)
deriving DecidableEq, Repr, Inhabited

/-- The address of a service of a host. -/
structure SocketAddress where
  host : HostAddress
  service : Nat
deriving DecidableEq, Repr, Inhabited

namespace SocketAddress

/-- Takes a character off a text. -/
def mark? (c : Char) : List Char → Option (List Char)
  | d :: rest => if d = c then some rest else none
  | [] => none

/-- Takes the mark between items off a text, which the first item does not have. -/
def separator? (c : Char) (first : Bool) (cs : List Char) : Option (List Char) :=
  if first then some cs else mark? c cs

/-- Whether a character is a digit to base 16. -/
def isHexDigit (c : Char) : Bool := (Source.hexDigit? c).isSome

/-- The value of digits to a base. -/
def valueOf (base : Nat) (ds : List Char) : Nat :=
  ds.foldl (fun n c => n * base + (Source.hexDigit? c).getD 0) 0

/-- Takes a decimal number below a bound off a text. -/
def decimal? (bound : Nat) (cs : List Char) : Option (Nat × List Char) :=
  let ds := cs.takeWhile Source.isDigit
  if ds.isEmpty || bound ≤ valueOf 10 ds then none else some (valueOf 10 ds, cs.drop ds.length)

/-- Takes a part of four off a text: a number up to 255 without a leading zero. -/
def part? (cs : List Char) : Option (Nat × List Char) := do
  let (n, rest) ← decimal? 256 cs
  if cs.head? == some '0' && 1 < cs.length - rest.length then none
  return (n, rest)

/-- Takes the last `n` of four numbers off a text. -/
def parts? (n : Nat) (cs : List Char) : Option (List Nat × List Char) :=
  match n with
  | 0 => some ([], cs)
  | n + 1 => do
    let (part, rest) ← part? (← separator? '.' (n == 3) cs)
    let (parts, rest) ← parts? n rest
    return (part :: parts, rest)

/-- Takes a group off a text: at most four digits to base 16. -/
def group? (cs : List Char) : Option (Nat × List Char) :=
  let ds := cs.takeWhile isHexDigit
  if ds.isEmpty || 4 < ds.length then none else some (valueOf 16 ds, cs.drop ds.length)

/-- The two groups that four numbers stand for. -/
def groupsOf : List Nat → List Nat
  | [a, b, c, d] => [a * 256 + b, c * 256 + d]
  | _ => []

/-- Takes at most `room` groups off a text, and tells whether the last two are written as four numbers. -/
def groups (room : Nat) (first : Bool) (cs : List Char) : List Nat × Bool × List Char :=
  match room with
  | 0 => ([], false, cs)
  | room + 1 =>
    match if room = 0 then none else (separator? ':' first cs).bind (parts? 4) with
    | some (parts, rest) => (groupsOf parts, true, rest)
    | none =>
      match (separator? ':' first cs).bind group? with
      | some (group, rest) =>
        let (more, isMixed, rest) := groups room false rest
        (group :: more, isMixed, rest)
      | none => ([], false, cs)

/-- Takes the groups of an address off a text, those left out filled in. -/
def allGroups? (cs : List Char) : Option (List Nat × List Char) := do
  let (head, isMixed, rest) := groups 8 true cs
  if head.length = 8 then return (head, rest)
  if isMixed then none
  let rest ← mark? ':' (← mark? ':' rest)
  let (tail, _, rest) := groups (7 - head.length) true rest
  return (head ++ List.replicate (8 - head.length - tail.length) 0 ++ tail, rest)

/-- Takes an address of four numbers off a text. -/
def v4? (cs : List Char) : Option (HostAddress × List Char) := do
  let (parts, rest) ← parts? 4 cs
  return (.v4 parts, rest)

/-- Takes an address of groups in brackets off a text; a zone may follow the groups. -/
def v6? (cs : List Char) : Option (HostAddress × List Char) := do
  let (groups, rest) ← allGroups? (← mark? '[' cs)
  let (zone, rest) := ((mark? '%' rest).bind (decimal? (twoPow 32))).getD (0, rest)
  return (.v6 groups zone, ← mark? ']' rest)

/-- Takes the number of a service off a text. -/
def service? (cs : List Char) : Option (Nat × List Char) :=
  (mark? ':' cs).bind (decimal? (twoPow 16))

/-- Reads an address. -/
def ofText? (s : String) : Option SocketAddress := do
  let cs := s.toList
  let (host, service, rest) ←
    (do
      let (host, rest) ← v4? cs
      let (service, rest) ← service? rest
      return (host, service, rest)) <|>
    (do
      let (host, rest) ← v6? cs
      let (service, rest) ← service? rest
      return (host, service, rest))
  if rest.isEmpty then some { host, service } else none

end SocketAddress

end AppGateway
