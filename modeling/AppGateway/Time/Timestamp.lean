import AppGateway.Text.Blank
import AppGateway.Time.Calendar
import AppGateway.Time.Span

/-!
# Timestamps

A `Timestamp` is a moment of universal time to the nanosecond.  A leap second is the second before it with a
fraction of a second or more.

* `Timestamp.parse` reads the RFC 3339 form leniently: parts may have fewer digits, blanks may stand before a
  part, a year may carry a sign, and the offset may be written `Z`, `UTC`, `+hh:mm` or `+hhmm`.
* `Timestamp.toText` writes the fewest of 0, 3, 6 and 9 fraction digits that lose nothing;
  `Timestamp.toSecondsText` writes whole seconds.
-/

namespace AppGateway

/-- A moment: seconds from 1970-01-01T00:00:00Z, and nanoseconds, at least `10 ^ 9` of them in a leap second. -/
structure Timestamp where
  seconds : Int
  nanoseconds : Nat
deriving DecidableEq, Repr, Inhabited

namespace Timestamp

open Text (trimStart)

def isDigit (c : Char) : Bool := '0' ≤ c && c ≤ '9'

def ofDigits (ds : List Char) : Nat :=
  ds.foldl (fun n c => n * 10 + (c.toNat - '0'.toNat)) 0

/-- Reads a number of at least one and at most `width` digits. -/
def digits? (width : Nat) (cs : List Char) : Option (Nat × List Char) :=
  let ds := (cs.take width).takeWhile isDigit
  if ds.isEmpty then none else some (ofDigits ds, cs.drop ds.length)

/-- Reads a number of one or two digits, in a range, with blanks before it. -/
def part? (least greatest : Nat) (cs : List Char) : Option (Nat × List Char) := do
  let (n, rest) ← digits? 2 (trimStart cs)
  if least ≤ n ∧ n ≤ greatest then some (n, rest) else none

/-- Reads a year: up to four digits, or a sign and any number of them. -/
def year? (cs : List Char) : Option (Int × List Char) :=
  match trimStart cs with
  | '-' :: rest => (digits? rest.length rest).map fun (n, rest) => (-(n : Int), rest)
  | '+' :: rest => (digits? rest.length rest).map fun (n, rest) => ((n : Int), rest)
  | rest => (digits? 4 rest).map fun (n, rest) => ((n : Int), rest)

/-- Reads a character, with blanks before it. -/
def mark? (mark : Char) (cs : List Char) : Option (List Char) :=
  match trimStart cs with
  | c :: rest => if c = mark then some rest else none
  | [] => none

/-- Reads a fraction of a second, if a point follows; digits after the ninth do not count. -/
def fraction? : List Char → Option (Nat × List Char)
  | '.' :: rest =>
    let ds := rest.takeWhile isDigit
    let kept := ds.take 9
    if ds.isEmpty then none else some (ofDigits kept * tenPow (9 - kept.length), rest.drop ds.length)
  | cs => some (0, cs)

/-- Reads two digits, the first of them at most `top`. -/
def twoDigits? (top : Char) : List Char → Option (Nat × List Char)
  | a :: b :: rest => if isDigit a && a ≤ top && isDigit b then some (ofDigits [a, b], rest) else none
  | _ => none

/-- Reads the seconds that a local time is ahead of universal time. -/
def offset? (cs : List Char) : Option (Int × List Char) :=
  let signed (ahead : Bool) (cs : List Char) : Option (Int × List Char) := do
    let (hours, rest) ← twoDigits? '9' cs
    let (minutes, rest) ← twoDigits? '5' (rest.dropWhile fun c => c == ':' || Text.isBlank c)
    let seconds : Int := hours * 3600 + minutes * 60
    return (if ahead then seconds else -seconds, rest)
  match cs with
  | 'Z' :: rest => some (0, rest)
  | 'z' :: rest => some (0, rest)
  | '+' :: rest => signed true rest
  | '-' :: rest => signed false rest
  | '\u2212' :: rest => signed false rest
  | u :: t :: c :: rest =>
    if u.toUpper = 'U' ∧ t.toUpper = 'T' ∧ c.toUpper = 'C' then some (0, rest) else none
  | _ => none

/-- The date of a moment and its second of the day. -/
def date (t : Timestamp) : Calendar.Date := Calendar.Date.ofDays (t.seconds / 86400)

@[inherit_doc date]
def secondOfDay (t : Timestamp) : Int := t.seconds % 86400

/-- Reads a timestamp. -/
def parseChars (cs : List Char) : Option Timestamp := do
  let (year, rest) ← year? cs
  let (month, rest) ← part? 1 12 (← mark? '-' rest)
  let (day, rest) ← part? 1 31 (← mark? '-' rest)
  let rest ← match rest with
    | c :: rest => if c = 'T' ∨ c = 't' ∨ c = ' ' then some rest else none
    | [] => none
  let (hour, rest) ← part? 0 23 rest
  let (minute, rest) ← part? 0 59 (← mark? ':' rest)
  let (second, rest) ← part? 0 60 (← mark? ':' rest)
  let (nanos, rest) ← fraction? rest
  let (offset, rest) ← offset? (trimStart rest)
  let date : Calendar.Date := ⟨year, month, day⟩
  if (trimStart rest).isEmpty ∧ date.isValid ∧ offset.natAbs < 86400 then
    let leap := second == 60
    let clock : Int := hour * 3600 + minute * 60 + (if leap then 59 else second : Nat)
    let t : Timestamp := ⟨date.toDays * 86400 + clock - offset, if leap then nanos + 1000000000 else nanos⟩
    if t.date.isValid then some t else none
  else none

/-- Reads a timestamp. -/
def parse (text : String) : Option Timestamp :=
  parseChars text.toList

/-- A number with leading zeros up to a width. -/
def padded (width n : Nat) : List Char :=
  let ds := (toString n).toList
  List.replicate (width - ds.length) '0' ++ ds

/-- A year: four digits, or a sign and at least four digits when it is not within four digits. -/
def yearChars (year : Int) : List Char :=
  if 0 ≤ year ∧ year ≤ 9999 then padded 4 year.toNat
  else if year < 0 then '-' :: padded 4 year.natAbs
  else '+' :: padded 4 year.natAbs

/-- The fraction of a second, in as many of 0, 3, 6 and 9 digits as it takes. -/
def fractionChars (nanos : Nat) : List Char :=
  if nanos = 0 then []
  else if nanos % 1000000 = 0 then '.' :: padded 3 (nanos / 1000000)
  else if nanos % 1000 = 0 then '.' :: padded 6 (nanos / 1000)
  else '.' :: padded 9 nanos

/-- The date and time of day, to the second. -/
def clockChars (t : Timestamp) : List Char :=
  let d := t.date
  let s := t.secondOfDay.toNat
  let second := s % 60 + t.nanoseconds / 1000000000
  yearChars d.year ++ '-' :: padded 2 d.month ++ '-' :: padded 2 d.day ++ 'T' :: padded 2 (s / 3600)
    ++ ':' :: padded 2 (s / 60 % 60) ++ ':' :: padded 2 second

/-- A timestamp with as many fraction digits as it takes. -/
def toText (t : Timestamp) : String :=
  String.ofList (t.clockChars ++ fractionChars (t.nanoseconds % 1000000000) ++ ['Z'])

/-- A timestamp in whole seconds. -/
def toSecondsText (t : Timestamp) : String :=
  String.ofList (t.clockChars ++ ['Z'])

/-- The time from `start` to `stop`, in which a leap second between them counts. -/
def since (stop start : Timestamp) : Span :=
  let leap : Int :=
    if start.secondOfDay < stop.secondOfDay ∧ 1000000000 ≤ start.nanoseconds then 1
    else if stop.secondOfDay < start.secondOfDay ∧ 1000000000 ≤ stop.nanoseconds then -1
    else 0
  ⟨(stop.seconds - start.seconds + leap) * 1000000000 + stop.nanoseconds - start.nanoseconds⟩

end Timestamp

end AppGateway
