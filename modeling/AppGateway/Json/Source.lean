import AppGateway.Json.Basic

/-!
# The grammar of JSON text

`Source.parse` reads a text into its parse tree.  The tree keeps members in the order of the text, repeated ones
included, does not evaluate numerals and sets no limit on nesting, so that parts of a document that nobody asks
for need to be well formed and nothing more.  A string whose escapes name half of a surrogate pair is well
formed but has no text.
-/

namespace AppGateway

/-- The parse tree of a JSON text. -/
inductive Source where
  | null
  | bool (value : Bool)
  | numeral (value : Numeral)
  | string (text : Option String)
  | array (items : List Source)
  | object (members : List (Option String × Source))
deriving Inhabited, Repr

namespace Source

/-- Blanks between tokens. -/
def isBlank (c : Char) : Bool :=
  c == ' ' || c == '\n' || c == '\t' || c == '\r'

/-- Drops leading blanks. -/
def skipBlanks (cs : List Char) : List Char :=
  cs.dropWhile isBlank

/-- A decimal digit. -/
def isDigit (c : Char) : Bool :=
  '0' ≤ c && c ≤ '9'

/-- The value of a hexadecimal digit. -/
def hexDigit? (c : Char) : Option Nat :=
  if isDigit c then some (c.toNat - '0'.toNat)
  else if 'a' ≤ c && c ≤ 'f' then some (c.toNat - 'a'.toNat + 10)
  else if 'A' ≤ c && c ≤ 'F' then some (c.toNat - 'A'.toNat + 10)
  else none

/-- The character that a backslash and this letter stand for. -/
def unescape? : Char → Option Char
  | '"' => some '"'
  | '\\' => some '\\'
  | '/' => some '/'
  | 'b' => some '\x08'
  | 'f' => some '\x0c'
  | 'n' => some '\n'
  | 'r' => some '\r'
  | 't' => some '\t'
  | _ => none

/-- Reads the rest of a string after its opening quote, as code points and 16-bit units of escapes. -/
def stringUnits : List Char → Option (List Nat × List Char)
  | [] => none
  | '"' :: rest => some ([], rest)
  | '\\' :: 'u' :: a :: b :: c :: d :: rest => do
    let unit := (((← hexDigit? a) * 16 + (← hexDigit? b)) * 16 + (← hexDigit? c)) * 16 + (← hexDigit? d)
    let (units, rest) ← stringUnits rest
    return (unit :: units, rest)
  | '\\' :: c :: rest => do
    let c ← unescape? c
    let (units, rest) ← stringUnits rest
    return (c.toNat :: units, rest)
  | c :: rest =>
    if c.toNat < 0x20 || c == '\\' then none
    else do
      let (units, rest) ← stringUnits rest
      return (c.toNat :: units, rest)

/-- Joins surrogate pairs; none when half of a pair is left alone. -/
def joinUnits : List Nat → Option (List Char)
  | [] => some []
  | [unit] => if 0xD800 ≤ unit && unit < 0xE000 then none else some [Char.ofNat unit]
  | high :: low :: rest =>
    if 0xD800 ≤ high && high < 0xDC00 then
      if 0xDC00 ≤ low && low < 0xE000 then
        (joinUnits rest).map (Char.ofNat (0x10000 + (high - 0xD800) * 0x400 + (low - 0xDC00)) :: ·)
      else none
    else if 0xDC00 ≤ high && high < 0xE000 then none
    else (joinUnits (low :: rest)).map (Char.ofNat high :: ·)

/-- Reads the rest of a string after its opening quote. -/
def string? (cs : List Char) : Option (Option String × List Char) := do
  let (units, rest) ← stringUnits cs
  return ((joinUnits units).map String.ofList, rest)

/-- Reads the digits of a fraction, if a point follows. -/
def fraction? : List Char → Option (List Char × List Char)
  | '.' :: rest =>
    let ds := rest.takeWhile isDigit
    if ds.isEmpty then none else some (ds, rest.dropWhile isDigit)
  | cs => some ([], cs)

/-- Reads the digits of a power of ten after its sign. -/
def powerDigits? (negative : Bool) (cs : List Char) : Option (Option Int × List Char) :=
  let ds := cs.takeWhile isDigit
  if ds.isEmpty then none
  else
    let n : Int := Numeral.ofDigits ds
    some (some (if negative then -n else n), cs.dropWhile isDigit)

/-- Reads a power of ten, if one follows. -/
def power? : List Char → Option (Option Int × List Char)
  | c :: rest =>
    if c == 'e' || c == 'E' then
      match rest with
      | '-' :: rest => powerDigits? true rest
      | '+' :: rest => powerDigits? false rest
      | rest => powerDigits? false rest
    else some (none, c :: rest)
  | [] => some (none, [])

/-- Reads a numeral after its sign; a leading zero stands alone. -/
def numeral? (negative : Bool) (cs : List Char) : Option (Numeral × List Char) := do
  let whole := cs.takeWhile isDigit
  if whole.isEmpty || (whole.head? == some '0' && whole.length != 1) then none
  let (fraction, rest) ← fraction? (cs.dropWhile isDigit)
  let (power, rest) ← power? rest
  return (⟨negative, whole, fraction, power⟩, rest)

mutual

/-- Reads a value; `fuel` bounds the number of values and separators read. -/
def value? (fuel : Nat) (cs : List Char) : Option (Source × List Char) :=
  match fuel with
  | 0 => none
  | fuel + 1 =>
    match skipBlanks cs with
    | 'n' :: 'u' :: 'l' :: 'l' :: rest => some (.null, rest)
    | 't' :: 'r' :: 'u' :: 'e' :: rest => some (.bool true, rest)
    | 'f' :: 'a' :: 'l' :: 's' :: 'e' :: rest => some (.bool false, rest)
    | '"' :: rest => (string? rest).map fun (s, rest) => (.string s, rest)
    | '-' :: rest => (numeral? true rest).map fun (x, rest) => (.numeral x, rest)
    | '[' :: rest =>
      match skipBlanks rest with
      | ']' :: rest => some (.array [], rest)
      | rest => (items? fuel rest).map fun (items, rest) => (.array items, rest)
    | '{' :: rest =>
      match skipBlanks rest with
      | '}' :: rest => some (.object [], rest)
      | rest => (members? fuel rest).map fun (members, rest) => (.object members, rest)
    | rest => (numeral? false rest).map fun (x, rest) => (.numeral x, rest)

/-- Reads the items of an array up to its closing bracket. -/
def items? (fuel : Nat) (cs : List Char) : Option (List Source × List Char) :=
  match fuel with
  | 0 => none
  | fuel + 1 => do
    let (item, rest) ← value? fuel cs
    match skipBlanks rest with
    | ']' :: rest => some ([item], rest)
    | ',' :: rest =>
      let (items, rest) ← items? fuel rest
      some (item :: items, rest)
    | _ => none

/-- Reads the members of an object up to its closing brace. -/
def members? (fuel : Nat) (cs : List Char) : Option (List (Option String × Source) × List Char) :=
  match fuel with
  | 0 => none
  | fuel + 1 => do
    match skipBlanks cs with
    | '"' :: rest =>
      let (key, rest) ← string? rest
      match skipBlanks rest with
      | ':' :: rest =>
        let (value, rest) ← value? fuel rest
        match skipBlanks rest with
        | '}' :: rest => some ([(key, value)], rest)
        | ',' :: rest =>
          let (members, rest) ← members? fuel rest
          some ((key, value) :: members, rest)
        | _ => none
      | _ => none
    | _ => none

end

/-- Reads a whole text. -/
def parse (cs : List Char) : Option Source := do
  let (source, rest) ← value? (2 * cs.length + 2) cs
  if (skipBlanks rest).isEmpty then some source else none

end Source

end AppGateway
