import AppGateway.Json.Text
import AppGateway.Proofs.Number.Numeral

/-!
# Written JSON is read back

* (strings) `string?_flatMap_escape`: a string is read back from what is written between its quotes;
* (values) `value?_chars`: a written value is read as its parse tree, `Json.source`, if no numeral goes on after it;
* (texts) `Json.reparse`: by the grammar of JSON and without a limit on nesting, the text of a value is read as this
  value;
* (lines) `Json.printable_chars`: in a written value there are no control characters.
-/

namespace AppGateway

open Numeral (Ends)

/-! ### Parse trees -/

namespace Json

mutual

/-- The parse tree of the text of a value. -/
def source : Json → Source
  | .null => .null
  | .bool b => .bool b
  | .number n => .numeral n.numeral
  | .string s => .string (some s)
  | .array items => .array (sourceItems items)
  | .object members => .object (sourceMembers members)

/-- The parse trees of the items of an array. -/
def sourceItems : List Json → List Source
  | [] => []
  | item :: rest => source item :: sourceItems rest

/-- The parse trees of the members of an object. -/
def sourceMembers : List (String × Json) → List (Option String × Source)
  | [] => []
  | (key, value) :: rest => (some key, source value) :: sourceMembers rest

end

end Json

namespace Source

mutual

/-- The value that a parse tree stands for, with the members in the order of the text and all digits counted. -/
def json? : Source → Option Json
  | .null => some .null
  | .bool b => some (.bool b)
  | .numeral x => x.number?.map .number
  | .string s => s.map .string
  | .array items => (jsonItems? items).map .array
  | .object members => (jsonMembers? members).map .object

/-- The values of the items of an array. -/
def jsonItems? : List Source → Option (List Json)
  | [] => some []
  | item :: rest => do
    let value ← json? item
    let values ← jsonItems? rest
    return value :: values

/-- The members of an object with their values. -/
def jsonMembers? : List (Option String × Source) → Option Members
  | [] => some []
  | (key, item) :: rest => do
    let key ← key
    let value ← json? item
    let values ← jsonMembers? rest
    return (key, value) :: values

end

end Source

namespace Json

mutual

private theorem json?_source : ∀ j : Json, j.source.json? = some j
  | .null => rfl
  | .bool _ => rfl
  | .number n => by
    rw [source, Source.json?, Number.number?_numeral n]
    rfl
  | .string _ => rfl
  | .array items => by
    rw [source, Source.json?, jsonItems?_sourceItems items]
    rfl
  | .object members => by
    rw [source, Source.json?, jsonMembers?_sourceMembers members]
    rfl

private theorem jsonItems?_sourceItems : ∀ items : List Json, Source.jsonItems? (sourceItems items) = some items
  | [] => rfl
  | item :: rest => by
    rw [sourceItems, Source.jsonItems?, json?_source item, jsonItems?_sourceItems rest]
    rfl

private theorem jsonMembers?_sourceMembers : ∀ members : List (String × Json),
    Source.jsonMembers? (sourceMembers members) = some members
  | [] => rfl
  | (key, value) :: rest => by
    rw [sourceMembers, Source.jsonMembers?, json?_source value, jsonMembers?_sourceMembers rest]
    rfl

end

/-! ### Strings -/

private theorem hexDigit?_hexDigit : ∀ n < 16, Source.hexDigit? (hexDigit n) = some n := by decide

/-- Of a written character its code point is read. -/
private theorem stringUnits_escape (c : Char) (rest : List Char) :
    Source.stringUnits (escape c ++ rest) =
      (Source.stringUnits rest).map fun (units, rest) => (c.toNat :: units, rest) := by
  have hbind (n : Nat) : (do
      let (units, rest) ← Source.stringUnits rest
      return (n :: units, rest)) = (Source.stringUnits rest).map fun (units, rest) => (n :: units, rest) := by
    cases Source.stringUnits rest <;> rfl
  rw [escape.eq_def]
  split
  iterate 7 exact hbind _
  rename_i hquote hslash _ _ _ _ _
  split
  · rename_i hcontrol
    have hhigh := hexDigit?_hexDigit (c.toNat / 16) (by omega)
    have hlow := hexDigit?_hexDigit (c.toNat % 16) (by omega)
    have hzero : Source.hexDigit? '0' = some 0 := by decide
    have hunit : ((0 * 16 + 0) * 16 + c.toNat / 16) * 16 + c.toNat % 16 = c.toNat := by omega
    simp only [List.cons_append, List.nil_append, Source.stringUnits, hzero, hhigh, hlow, Option.bind_eq_bind,
      Option.bind_some, hunit]
    exact hbind _
  · rename_i hprintable
    rw [List.cons_append, List.nil_append, Source.stringUnits.eq_5]
    · have hplain : (decide (c.toNat < 0x20) || c == '\\') = false := by
        simp only [Bool.or_eq_false_iff, decide_eq_false_iff_not, beq_eq_false_iff_ne]
        exact ⟨hprintable, hslash⟩
      simp only [hplain, Bool.false_eq_true, if_false]
      exact hbind _
    · exact hquote
    · exact fun _ _ _ _ _ h _ => hslash h
    · exact fun _ _ h _ => hslash h

/-- No character is half of a surrogate pair. -/
private theorem joinUnits_toNat (cs : List Char) : Source.joinUnits (cs.map Char.toNat) = some cs := by
  have hvalid (c : Char) : c.toNat < 0xD800 ∨ 0xE000 ≤ c.toNat := by
    rcases c.valid with h | h
    · exact .inl h
    · exact .inr (Nat.succ_le_of_lt h.1)
  induction cs with
  | nil => rfl
  | cons c cs ih =>
    have hc := hvalid c
    cases cs with
    | nil =>
      rw [List.map_cons, List.map_nil, Source.joinUnits, if_neg (by simp; omega), Char.ofNat_toNat]
    | cons d cs =>
      rw [List.map_cons] at ih
      rw [List.map_cons, List.map_cons, Source.joinUnits, if_neg (by simp; omega), if_neg (by simp; omega), ih,
        Char.ofNat_toNat]
      rfl

/-- A string is read back from what is written between its quotes. -/
theorem string?_flatMap_escape (s : String) (rest : List Char) :
    Source.string? (s.toList.flatMap escape ++ '"' :: rest) = some (some s, rest) := by
  have hunits (cs : List Char) :
      Source.stringUnits (cs.flatMap escape ++ '"' :: rest) = some (cs.map Char.toNat, rest) := by
    induction cs with
    | nil => rfl
    | cons c cs ih =>
      rw [List.flatMap_cons, List.append_assoc, stringUnits_escape, ih]
      rfl
  simp only [Source.string?, hunits, Option.bind_eq_bind, Option.bind_some, joinUnits_toNat, Option.map_some,
    String.ofList_toList]
  rfl

/-! ### Values -/

/-- The first character of a written value is neither a blank nor a closing bracket. -/
structure Starts (c : Char) : Prop where
  blank : Source.isBlank c = false
  bracket : c ≠ ']'

private theorem starts_of_isDigit {c : Char} (h : Source.isDigit c = true) : Starts c := by
  obtain ⟨hlow, hhigh⟩ := Source.isDigit_iff.mp h
  have hne {d : Char} (hd : d.toNat < 48 ∨ 57 < d.toNat) : c ≠ d := by
    rintro rfl
    omega
  refine ⟨?_, hne (by decide)⟩
  simp only [Source.isBlank, Bool.or_eq_false_iff, beq_eq_false_iff_ne]
  exact ⟨⟨⟨hne (by decide), hne (by decide)⟩, hne (by decide)⟩, hne (by decide)⟩

/-- A numeral begins with a digit after its sign. -/
theorem magnitudeChars_eq_cons {x : Numeral} (h : x.WellFormed) :
    ∃ c cs, x.magnitudeChars = c :: cs ∧ Source.isDigit c = true := by
  obtain ⟨c, ds, hwhole⟩ := List.exists_cons_of_ne_nil h.nonempty
  refine ⟨c, ds ++ (Numeral.fractionChars x.fraction ++ Numeral.powerChars x.power), ?_, h.digits c ?_⟩
  · rw [Numeral.magnitudeChars, hwhole]
    rfl
  · rw [hwhole]
    exact List.mem_cons_self

private theorem chars_eq_cons (j : Json) : ∃ c cs, j.chars = c :: cs ∧ Starts c := by
  cases j with
  | null => exact ⟨'n', _, rfl, by decide, by decide⟩
  | bool b => cases b <;> exact ⟨_, _, rfl, by decide, by decide⟩
  | number n =>
    rw [chars, n.toList_toText, Numeral.chars]
    obtain ⟨c, cs, hcs, hc⟩ := magnitudeChars_eq_cons (Number.wellFormed_numeral n)
    split
    · exact ⟨'-', _, rfl, by decide, by decide⟩
    · exact ⟨c, cs, hcs, starts_of_isDigit hc⟩
  | string s => exact ⟨'"', _, rfl, by decide, by decide⟩
  | array items => exact ⟨'[', _, rfl, by decide, by decide⟩
  | object members => exact ⟨'{', _, rfl, by decide, by decide⟩

private theorem skipBlanks_cons {c : Char} (h : Source.isBlank c = false) (cs : List Char) :
    Source.skipBlanks (c :: cs) = c :: cs :=
  List.dropWhile_cons_of_neg (by rw [h]; exact Bool.false_ne_true)

/-- A numeral is read as a value. -/
private theorem value?_numeral {x : Numeral} (h : x.WellFormed) (fuel : Nat) {rest : List Char} (hrest : Ends rest) :
    Source.value? (fuel + 1) (x.chars ++ rest) = some (.numeral x, rest) := by
  have hread := Numeral.numeral?_magnitudeChars h hrest
  rw [Numeral.chars]
  cases hsign : x.negative with
  | true =>
    rw [hsign] at hread
    show (Source.numeral? true (x.magnitudeChars ++ rest)).map _ = _
    rw [hread]
    rfl
  | false =>
    rw [hsign] at hread
    obtain ⟨c, cs, hcs, hc⟩ := magnitudeChars_eq_cons h
    rw [if_neg Bool.false_ne_true]
    rw [hcs, List.cons_append] at hread ⊢
    rw [Source.value?, skipBlanks_cons (starts_of_isDigit hc).blank]
    -- A digit begins none of the other values.
    split
    case h_8 => rw [hread]; rfl
    all_goals
      rename_i heq
      cases (List.cons.inj heq).1
      cases hc

private theorem ends_of_mem {c : Char} (hc : c ∈ [',', ']', '}']) (rest : List Char) : Ends (c :: rest) := by
  rintro d ⟨⟩
  simp only [List.mem_cons, List.not_mem_nil, or_false] at hc
  rcases hc with rfl | rfl | rfl <;> decide

/-! ### Steps of the reader -/

section

variable {fuel : Nat} {cs rest rest' tail : List Char} {key : Option String} {value item : Source}

private theorem value?_array {c : Char} (hc : Starts c) : Source.value? (fuel + 1) ('[' :: c :: cs) =
    (Source.items? fuel (c :: cs)).map fun (items, rest) => (.array items, rest) := by
  have hopen : Source.skipBlanks ('[' :: c :: cs) = '[' :: c :: cs := skipBlanks_cons (by decide) _
  simp only [Source.value?, hopen, skipBlanks_cons hc.blank]
  split
  · rename_i heq
    exact absurd (List.cons.inj heq).1 hc.bracket
  · rfl

private theorem items?_last (h : Source.value? fuel cs = some (item, ']' :: rest)) :
    Source.items? (fuel + 1) cs = some ([item], rest) := by
  rw [Source.items?, h]
  rfl

private theorem items?_cons {items : List Source} (h : Source.value? fuel cs = some (item, ',' :: tail))
    (hitems : Source.items? fuel tail = some (items, rest)) :
    Source.items? (fuel + 1) cs = some (item :: items, rest) := by
  rw [Source.items?, h]
  show (Source.items? fuel tail).bind _ = _
  rw [hitems]
  rfl

private theorem members?_last (hkey : Source.string? cs = some (key, ':' :: tail))
    (h : Source.value? fuel tail = some (value, '}' :: rest)) :
    Source.members? (fuel + 1) ('"' :: cs) = some ([(key, value)], rest) := by
  show (Source.string? cs).bind _ = _
  rw [hkey]
  show (Source.value? fuel tail).bind _ = _
  rw [h]
  rfl

private theorem members?_cons {members : List (Option String × Source)}
    (hkey : Source.string? cs = some (key, ':' :: tail)) (h : Source.value? fuel tail = some (value, ',' :: rest))
    (hmembers : Source.members? fuel rest = some (members, rest')) :
    Source.members? (fuel + 1) ('"' :: cs) = some ((key, value) :: members, rest') := by
  show (Source.string? cs).bind _ = _
  rw [hkey]
  show (Source.value? fuel tail).bind _ = _
  rw [h]
  show (Source.members? fuel rest).bind _ = _
  rw [hmembers]
  rfl

end

private theorem itemChars_eq_cons : ∀ {items : List Json}, items ≠ [] → ∃ c cs, itemChars items = c :: cs ∧ Starts c
  | [], hne => absurd rfl hne
  | [item], _ => chars_eq_cons item
  | item :: next :: rest, _ => by
    obtain ⟨c, cs, hcs, hc⟩ := chars_eq_cons item
    exact ⟨c, cs ++ ',' :: itemChars (next :: rest), by rw [itemChars, hcs, List.cons_append], hc⟩

/-- Written members begin with the quote of the first key. -/
theorem memberChars_cons (key : String) (value : Json) (rest : List (String × Json)) :
    memberChars ((key, value) :: rest) =
      '"' :: (key.toList.flatMap escape ++ '"' :: ':' :: (value.chars ++
        match rest with
        | [] => []
        | next :: rest => ',' :: memberChars (next :: rest))) := by
  cases rest <;> simp only [memberChars, quote, List.cons_append, List.append_assoc, List.nil_append, List.append_nil]

-- By structural recursion on the value.  Fuel for the length of a text is enough, since each value and separator that
-- is read is a character at least.
mutual

/-- A written value is read as its parse tree. -/
theorem value?_chars : ∀ (j : Json) (fuel : Nat) (rest : List Char), j.chars.length ≤ fuel → Ends rest →
    Source.value? fuel (j.chars ++ rest) = some (j.source, rest)
  | j, 0, _, hfuel, _ => by
    obtain ⟨c, cs, hcs, -⟩ := chars_eq_cons j
    rw [hcs] at hfuel
    cases hfuel
  | .null, _ + 1, _, _, _ => rfl
  | .bool true, _ + 1, _, _, _ => rfl
  | .bool false, _ + 1, _, _, _ => rfl
  | .number n, fuel + 1, _, _, hrest => by
    rw [chars, n.toList_toText]
    exact value?_numeral (Number.wellFormed_numeral n) fuel hrest
  | .string s, fuel + 1, rest, _, _ => by
    rw [chars, quote, List.cons_append, List.cons_append, List.append_assoc]
    show (Source.string? (s.toList.flatMap escape ++ '"' :: rest)).map _ = _
    rw [string?_flatMap_escape]
    rfl
  | .array [], _ + 1, _, _, _ => rfl
  | .array (item :: items), fuel + 1, rest, hfuel, _ => by
    have hne : item :: items ≠ [] := List.cons_ne_nil _ _
    simp only [chars, List.cons_append, List.length_cons, List.length_append, List.length_nil] at hfuel
    have hread := items?_itemChars (item :: items) fuel rest hne (by omega)
    obtain ⟨c, cs, hcs, hc⟩ := itemChars_eq_cons hne
    rw [chars, List.cons_append, List.cons_append, List.append_assoc, List.singleton_append]
    rw [hcs, List.cons_append] at hread ⊢
    rw [value?_array hc, hread]
    rfl
  | .object [], _ + 1, _, _, _ => rfl
  | .object ((key, value) :: members), fuel + 1, rest, hfuel, _ => by
    simp only [chars, List.cons_append, List.length_cons, List.length_append, List.length_nil] at hfuel
    have hread := members?_memberChars ((key, value) :: members) fuel rest (List.cons_ne_nil _ _) (by omega)
    rw [chars, List.cons_append, List.cons_append, List.append_assoc, List.singleton_append]
    rw [memberChars_cons, List.cons_append] at hread ⊢
    show (Source.members? fuel _).map _ = _
    rw [hread]
    rfl

/-- Written items are read up to the closing bracket. -/
theorem items?_itemChars : ∀ (items : List Json) (fuel : Nat) (rest : List Char), items ≠ [] →
    (itemChars items).length < fuel →
    Source.items? fuel (itemChars items ++ ']' :: rest) = some (sourceItems items, rest)
  | [], _, _, hne, _ => absurd rfl hne
  | _ :: _, 0, _, _, hfuel => absurd hfuel (Nat.not_lt_zero _)
  | [item], fuel + 1, rest, _, hfuel =>
    items?_last (value?_chars item fuel _ (Nat.le_of_lt_succ hfuel) (ends_of_mem (by decide) rest))
  | item :: next :: items, fuel + 1, rest, _, hfuel => by
    simp only [itemChars, List.length_append, List.length_cons] at hfuel
    rw [itemChars, List.append_assoc, List.cons_append]
    exact items?_cons (value?_chars item fuel _ (by omega) (ends_of_mem (by decide) _))
      (items?_itemChars (next :: items) fuel rest (List.cons_ne_nil _ _) (by omega))

/-- Written members are read up to the closing brace. -/
theorem members?_memberChars : ∀ (members : List (String × Json)) (fuel : Nat) (rest : List Char), members ≠ [] →
    (memberChars members).length < fuel →
    Source.members? fuel (memberChars members ++ '}' :: rest) = some (sourceMembers members, rest)
  | [], _, _, hne, _ => absurd rfl hne
  | _ :: _, 0, _, _, hfuel => absurd hfuel (Nat.not_lt_zero _)
  | [(key, value)], fuel + 1, rest, _, hfuel => by
    rw [memberChars_cons] at hfuel ⊢
    simp only [List.length_cons, List.length_append, List.append_nil] at hfuel
    simp only [List.cons_append, List.append_assoc, List.append_nil]
    exact members?_last (string?_flatMap_escape key _)
      (value?_chars value fuel _ (by omega) (ends_of_mem (by decide) rest))
  | (key, value) :: next :: members, fuel + 1, rest, _, hfuel => by
    rw [memberChars_cons] at hfuel ⊢
    simp only [List.length_cons, List.length_append] at hfuel
    simp only [List.cons_append, List.append_assoc]
    exact members?_cons (string?_flatMap_escape key _)
      (value?_chars value fuel _ (by omega) (ends_of_mem (by decide) _))
      (members?_memberChars (next :: members) fuel rest (List.cons_ne_nil _ _) (by omega))

end

private theorem parse_chars (j : Json) : Source.parse j.chars = some j.source := by
  have hread := value?_chars j (2 * j.chars.length + 2) [] (by omega) fun _ hc => nomatch hc
  rw [List.append_nil] at hread
  rw [Source.parse, hread]
  rfl

/-- By the grammar of JSON, the text of a value is read as this value. -/
theorem reparse (j : Json) : (Source.parse j.chars).bind Source.json? = some j := by
  rw [parse_chars j]
  exact json?_source j

/-! ### Control characters -/

/-- There are no control characters in a text. -/
def Printable (cs : List Char) : Prop := ∀ c ∈ cs, 0x20 ≤ c.toNat

instance : DecidablePred Printable := List.decidableBAll fun c : Char => 0x20 ≤ c.toNat

private theorem Printable.append {cs ds : List Char} (hcs : Printable cs) (hds : Printable ds) : Printable (cs ++ ds) :=
    by
  intro c hc
  rcases List.mem_append.mp hc with hc | hc
  · exact hcs c hc
  · exact hds c hc

private theorem Printable.cons {c : Char} {cs : List Char} (hc : 0x20 ≤ c.toNat) (hcs : Printable cs) : Printable
    (c :: cs) :=
  List.forall_mem_cons.mpr ⟨hc, hcs⟩

private theorem printable_digits {ds : List Char} (h : ∀ c ∈ ds, Source.isDigit c = true) : Printable ds := by
  intro c hc
  have := Source.isDigit_iff.mp (h c hc)
  omega

private theorem printable_numeral {x : Numeral} (h : x.WellFormed) : Printable x.chars := by
  have hpower : Printable (Numeral.powerChars x.power) := by
    cases x.power with
    | none => decide
    | some power =>
      rw [Numeral.powerChars, Numeral.toList_toString_int]
      have hdigits := printable_digits fun c => Numeral.isDigit_of_mem_digitsOf (n := power.natAbs) (c := c)
      split
      · exact (hdigits.cons (by decide)).cons (by decide)
      · exact hdigits.cons (by decide)
  have hfraction : Printable (Numeral.fractionChars x.fraction) := by
    rw [Numeral.fractionChars]
    split
    · decide
    · exact (printable_digits fun c hc => h.digits c (List.mem_append_right _ hc)).cons (by decide)
  have hmagnitude : Printable x.magnitudeChars :=
    (printable_digits fun c hc => h.digits c (List.mem_append_left _ hc)).append (hfraction.append hpower)
  rw [Numeral.chars]
  split
  · exact hmagnitude.cons (by decide)
  · exact hmagnitude

private theorem printable_hexDigit : ∀ n < 16, 0x20 ≤ (hexDigit n).toNat := by decide

/-- A control character is written with printable ones. -/
private theorem printable_escape (c : Char) : Printable (escape c) := by
  rw [escape.eq_def]
  split
  iterate 7 decide
  split
  · have hhigh := printable_hexDigit (c.toNat / 16) (by omega)
    have hlow := printable_hexDigit (c.toNat % 16) (by omega)
    have hprefix : Printable ['\\', 'u', '0', '0'] := by decide
    exact hprefix.append (.cons hhigh (.cons hlow (by decide)))
  · rename_i hprintable
    exact .cons (Nat.le_of_not_lt hprintable) (by decide)

private theorem printable_quote (s : String) : Printable (quote s) := by
  have htext : Printable (s.toList.flatMap escape) := by
    intro d hd
    obtain ⟨c, -, hd⟩ := List.mem_flatMap.mp hd
    exact printable_escape c d hd
  exact .append (.cons (by decide) htext) (by decide)

mutual

/-- In a written value there are no control characters. -/
theorem printable_chars : ∀ j : Json, Printable j.chars
  | .null => by decide
  | .bool true => by decide
  | .bool false => by decide
  | .number n => by
    rw [chars, n.toList_toText]
    exact printable_numeral (Number.wellFormed_numeral n)
  | .string s => printable_quote s
  | .array items => .append (.cons (by decide) (printable_itemChars items)) (by decide)
  | .object members => .append (.cons (by decide) (printable_memberChars members)) (by decide)

private theorem printable_itemChars : ∀ items : List Json, Printable (itemChars items)
  | [] => by decide
  | [item] => printable_chars item
  | item :: next :: items => (printable_chars item).append (.cons (by decide) (printable_itemChars (next :: items)))

private theorem printable_memberChars : ∀ members : List (String × Json), Printable (memberChars members)
  | [] => by decide
  | [(key, value)] => (printable_quote key).append (.cons (by decide) (printable_chars value))
  | (key, value) :: next :: members =>
    ((printable_quote key).append (.cons (by decide) (printable_chars value))).append
      (.cons (by decide) (printable_memberChars (next :: members)))

end

end Json

end AppGateway
