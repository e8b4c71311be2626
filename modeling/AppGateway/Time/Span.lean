import AppGateway.Number.Word

/-!
# Lengths of time and ages

A `Span` is a signed number of nanoseconds.  `Span.ageText` writes it the way ages of objects are shown: in the one
or two largest units that matter, everything below them cut off.
-/

namespace AppGateway

/-- A signed length of time. -/
structure Span where
  nanoseconds : Int
deriving DecidableEq, Repr, Inhabited

namespace Span

/-- The greatest length of a span in nanoseconds: `2 ^ 63 - 1` milliseconds. -/
def limit : Int := (twoPow 63 - 1) * 1000000

/-- The span of seconds and a fraction of a second; none when the fraction is no fraction or the span is too
long. -/
def ofParts? (seconds : Int) (nanoseconds : Nat) : Option Span :=
  let total := seconds * 1000000000 + nanoseconds
  if nanoseconds < 1000000000 ∧ -limit ≤ total ∧ total ≤ limit then some ⟨total⟩ else none

/-- Whole seconds, cut off toward zero. -/
def seconds (s : Span) : Int := s.nanoseconds.tdiv 1000000000

/-- Whole minutes, cut off toward zero. -/
def minutes (s : Span) : Int := s.seconds.tdiv 60

/-- Whole hours, cut off toward zero. -/
def hours (s : Span) : Int := s.seconds.tdiv 3600

/-- A count of a unit followed by a count of a smaller one, which is left out when it is zero. -/
def twoUnits (large : Int) (largeUnit : String) (small : Int) (smallUnit : String) : String :=
  if small = 0 then toString large ++ largeUnit
  else toString large ++ largeUnit ++ toString small ++ smallUnit

/-- The text of an age.  Up to a second before its time an age is zero; anything earlier is no age at all. -/
def ageText (s : Span) : String :=
  if s.seconds < -1 then "<invalid>"
  else if s.seconds < 0 then "0s"
  else if s.seconds < 120 then toString s.seconds ++ "s"
  else if s.minutes < 10 then twoUnits s.minutes "m" (s.seconds % 60) "s"
  else if s.minutes < 180 then toString s.minutes ++ "m"
  else if s.hours < 8 then twoUnits s.hours "h" (s.minutes % 60) "m"
  else if s.hours < 48 then toString s.hours ++ "h"
  else if s.hours < 192 then twoUnits (s.hours / 24) "d" (s.hours % 24) "h"
  else if s.hours < 17520 then toString (s.hours / 24) ++ "d"
  else if s.hours < 70080 then twoUnits (s.hours / 24 / 365) "y" (s.hours / 24 % 365) "d"
  else toString (s.hours / 24 / 365) ++ "y"

end Span

end AppGateway
