import AppGateway.Http.Message
import Mathlib.Data.List.TakeWhile

/-!
# Targets that are put together

What is read of a target when its text was put together from other texts.

* (splitting) `Target.segments_of_intercalate`: a path has the segments that it was joined from, when none of them
  contains a slash; `Target.of_mem_segments`: the segments of a path do not contain one;
* (reading) `Target.of_ofText?`: what stands in the path of a target that was read, `Target.ofText?_eq`: what is read of
  a path and a query with no delimiter in them;
* (writing) `isQueryChar_of_mem_encodeForm`: a written form may stand in a query.
-/

namespace AppGateway

namespace Text

theorem splitOn_eq (separator : Char) (cs : List Char) : splitOn separator cs = cs.splitOn separator := by
  induction cs with
  | nil => simp [splitOn]
  | cons c rest ih =>
    rw [splitOn, ih, List.splitOn_eq_splitOnP, List.splitOn_eq_splitOnP, List.splitOnP_cons_eq_if_modifyHead]
    cases h : rest.splitOnP fun c => c == separator with
    | nil => exact absurd h (List.splitOnP_ne_nil _ _)
    | cons part parts => by_cases hc : c = separator <;> simp [hc]

private theorem splitOn_ne_nil (separator : Char) (cs : List Char) : splitOn separator cs ≠ [] := by
  rw [splitOn_eq, List.splitOn_eq_splitOnP]
  exact List.splitOnP_ne_nil _ _

private theorem of_mem_splitOn {separator : Char} {cs part : List Char} (h : part ∈ splitOn separator cs) {c : Char}
    (hc : c ∈ part) : c ∈ cs ∧ c ≠ separator := by
  induction cs generalizing part with
  | nil =>
    rw [splitOn, List.mem_singleton] at h
    cases h
    cases hc
  | cons a rest ih =>
    rw [splitOn] at h
    split at h
    · rename_i hnil
      exact absurd hnil (splitOn_ne_nil _ _)
    · rename_i first parts hsplit
      rw [hsplit] at ih
      split at h
      · rcases List.mem_cons.mp h with rfl | h
        · cases hc
        · exact ⟨List.mem_cons_of_mem _ (ih h hc).1, (ih h hc).2⟩
      · rename_i hne
        rcases List.mem_cons.mp h with rfl | h
        · rcases List.mem_cons.mp hc with rfl | hc
          · exact ⟨List.mem_cons_self, hne⟩
          · exact ⟨List.mem_cons_of_mem _ (ih List.mem_cons_self hc).1, (ih List.mem_cons_self hc).2⟩
        · have hmem := ih (List.mem_cons_of_mem _ h) hc
          exact ⟨List.mem_cons_of_mem _ hmem.1, hmem.2⟩

end Text

namespace Http

/-- No character of the text ends the segment, the path or the target in which it stands.  There may be escapes in the
text, which a reader replaces by other characters. -/
def Undelimited (s : String) : Prop := ∀ c ∈ s.toList, c ≠ '/' ∧ c ≠ '?' ∧ c ≠ '#'

instance (s : String) : Decidable (Undelimited s) := List.decidableBAll _ s.toList

namespace Target

/-- The parts of the path between slashes; the first is empty, as a path starts with a slash. -/
def segments (t : Target) : List String := (Text.splitOn '/' t.path.toList).map String.ofList

theorem segments_of_intercalate {t : Target} {segs : List String} (hne : segs ≠ [])
    (h : ∀ s ∈ segs, Undelimited s) (hpath : t.path = String.intercalate "/" segs) : t.segments = segs := by
  have hsplit : Text.splitOn '/' t.path.toList = segs.map String.toList := by
    rw [hpath, String.toList_intercalate, Text.splitOn_eq]
    refine List.splitOn_intercalate '/' ?_ (by simpa using hne)
    intro part hpart hslash
    obtain ⟨s, hs, rfl⟩ := List.mem_map.mp hpart
    exact (h s hs '/' hslash).1 rfl
  rw [segments, hsplit, List.map_map]
  simp

/-- What is true of the characters of the segments is true of those of the path. -/
theorem all_intercalate (p : Char → Bool) (hslash : p '/' = true) (segs : List String) :
    (String.intercalate "/" segs).toList.all p = segs.all (·.toList.all p) := by
  induction segs with
  | nil => rfl
  | cons first rest ih =>
    cases rest with
    | nil => simp
    | cons second rest =>
      have hjoint : "/".toList.all p = true := by simpa using hslash
      rw [String.intercalate_cons_cons, String.toList_append, String.toList_append, List.all_append, List.all_append,
        ih, hjoint, Bool.and_true]
      rfl

theorem of_mem_segments {t : Target} {s : String} (h : s ∈ t.segments) {c : Char} (hc : c ∈ s.toList) :
    c ∈ t.path.toList ∧ c ≠ '/' := by
  obtain ⟨part, hpart, rfl⟩ := List.mem_map.mp h
  rw [String.toList_ofList] at hc
  exact Text.of_mem_splitOn hpart hc

private theorem ofText?_of_slash {address : String} {rest : List Char} (h : address.toList = '/' :: rest) :
    ofText? address = ofChars? ('/' :: rest) := by
  rw [ofText?, h]
  rfl

/-- The path of an address that starts with a slash ends before the first delimiter. -/
theorem of_ofText? {address : String} {rest : List Char} {t : Target} (haddress : address.toList = '/' :: rest)
    (h : ofText? address = some t) : ∀ c ∈ t.path.toList, c ≠ '?' ∧ c ≠ '#' := by
  have hpath : t.path.toList = (('/' :: rest).takeWhile (· ≠ '#')).takeWhile (· ≠ '?') := by
    rw [ofText?_of_slash haddress, ofChars?] at h
    split at h
    · cases h
    · split at h
      · cases h
        rw [String.toList_ofList]
      · split at h
        · cases h
          rw [String.toList_ofList]
        · cases h
  intro c hc
  rw [hpath] at hc
  have hmark := List.mem_takeWhile_imp hc
  have hnumber := List.mem_takeWhile_imp (List.takeWhile_subset _ hc)
  exact ⟨by simpa using hmark, by simpa using hnumber⟩

private theorem ne_of_isQueryChar {c : Char} (h : isQueryChar c = true) : c ≠ '#' := by
  rintro rfl
  revert h
  decide

private theorem ofChars?_append {path : List Char} (query : Option (List Char))
    (hpath : ∀ c ∈ path, c ≠ '?' ∧ c ≠ '#') (hquery : ∀ q, query = some q → ∀ c ∈ q, isQueryChar c = true) :
    ofChars? (path ++ query.elim [] ('?' :: ·)) =
      if path.all isPathChar then some { path := String.ofList path, query := query.map String.ofList } else none := by
  -- Nothing is cut off at a number sign, and the path is what stands before the first question mark.
  have hnumber : (path ++ query.elim [] ('?' :: ·)).takeWhile (· ≠ '#') = path ++ query.elim [] ('?' :: ·) := by
    rw [List.takeWhile_eq_self_iff]
    intro c hc
    rcases List.mem_append.mp hc with hc | hc
    · simpa using (hpath c hc).2
    · cases query with
      | none => cases hc
      | some q =>
        rcases List.mem_cons.mp hc with rfl | hc
        · rfl
        · simpa using ne_of_isQueryChar (hquery q rfl c hc)
  have hmark : ∀ c ∈ path, decide (c ≠ '?') = true := fun c hc => by simpa using (hpath c hc).1
  rw [ofChars?, hnumber, List.takeWhile_append_of_pos hmark, List.dropWhile_append_of_pos hmark]
  cases query with
  | none => by_cases hall : path.all isPathChar = true <;> simp [hall]
  | some q =>
    have hlegal : q.all isQueryChar = true := List.all_eq_true.mpr (hquery q rfl)
    by_cases hall : path.all isPathChar = true <;> simp [hall, hlegal]

/-- A path and a query without delimiters are read as they are, if the path may be sent. -/
theorem ofText?_eq {path : String} {rest : List Char} {query : Option String} (hslash : path.toList = '/' :: rest)
    (hpath : ∀ c ∈ path.toList, c ≠ '?' ∧ c ≠ '#')
    (hquery : ∀ q, query = some q → ∀ c ∈ q.toList, isQueryChar c = true) :
    ofText? (path ++ query.elim "" ("?" ++ ·)) =
      if path.toList.all isPathChar then some { path, query } else none := by
  have haddress : (path ++ query.elim "" ("?" ++ ·)).toList =
      path.toList ++ (query.map String.toList).elim [] ('?' :: ·) := by
    cases query <;> simp
  have hlegal : ∀ q, query.map String.toList = some q → ∀ c ∈ q, isQueryChar c = true := by
    intro q hq
    obtain ⟨text, htext, rfl⟩ := Option.map_eq_some_iff.mp hq
    exact hquery text htext
  have hstart : (path ++ query.elim "" ("?" ++ ·)).toList =
      '/' :: (rest ++ (query.map String.toList).elim [] ('?' :: ·)) := by
    rw [haddress, hslash, List.cons_append]
  rw [ofText?_of_slash hstart, ← List.cons_append, ← hslash, ofChars?_append _ hpath hlegal]
  simp

/-! ### Forms -/

private theorem lt_of_mem_encode {cs : List Char} {b : Nat} (h : b ∈ Utf8.encode cs) : b < 256 := by
  obtain ⟨c, -, hb⟩ := List.mem_flatMap.mp h
  have hc : c.toNat < 0x110000 := by
    have hvalid : c.toNat.isValidChar := c.valid
    rcases hvalid with hlow | hhigh
    · omega
    · exact hhigh.2
  rw [Utf8.encodeChar] at hb
  split_ifs at hb <;> simp at hb <;> omega

private theorem isQueryChar_upperHexDigit : ∀ n < 16, isQueryChar (upperHexDigit n) = true := by decide

private theorem isQueryChar_ofNat_of_isFormSafe : ∀ b < 256, isFormSafe b = true → isQueryChar (Char.ofNat b) = true :=
    by
  decide +kernel

private theorem isQueryChar_of_mem_encodeFormText {s : String} {c : Char} (h : c ∈ (encodeFormText s).toList) :
    isQueryChar c = true := by
  rw [encodeFormText, String.toList_ofList] at h
  obtain ⟨b, hb, hc⟩ := List.mem_flatMap.mp h
  have hbyte : b < 256 := lt_of_mem_encode hb
  rw [encodeFormByte] at hc
  split at hc
  · rw [List.mem_singleton.mp hc]
    rfl
  · split at hc
    · rename_i hsafe
      rw [List.mem_singleton.mp hc]
      exact isQueryChar_ofNat_of_isFormSafe b hbyte hsafe
    · simp only [List.mem_cons, List.not_mem_nil, or_false] at hc
      rcases hc with rfl | rfl | rfl
      · rfl
      · exact isQueryChar_upperHexDigit _ (by omega)
      · exact isQueryChar_upperHexDigit _ (by omega)

theorem isQueryChar_of_mem_encodeForm {pair : String × String} {c : Char}
    (h : c ∈ (encodeForm [pair]).toList) : isQueryChar c = true := by
  have hparts : c ∈ (encodeFormText pair.1).toList ∨ c = '=' ∨ c ∈ (encodeFormText pair.2).toList := by
    simpa [encodeForm] using h
  rcases hparts with hname | rfl | hvalue
  · exact isQueryChar_of_mem_encodeFormText hname
  · rfl
  · exact isQueryChar_of_mem_encodeFormText hvalue

end Target

end Http

end AppGateway
