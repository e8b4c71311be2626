import AppGateway.Backing.WireServer
import AppGateway.Proofs.Http.Escapes
import Mathlib.Tactic.Tauto

/-!
# Where calls are sent

The address of a call is put together from its namespace and its name as they are.  A delimiter in one of them ends the
segment in which it stands, and an escape is replaced by whoever reads the path.

* (path) `whole_iff_undelimited`: a request has the path and the query of the call exactly when neither the namespace
  nor the name holds a delimiter;
* (reading) `ofPath?_eq_iff`: of such a path the store reads the two as they are exactly when there is no escape in them;
* (both) `exact_iff_literal`: a request goes to what the call is about exactly when the two stand for themselves;
* (refusals) `request?_isSome_iff`: a call without delimiters is sent unless its name is empty or one of the two has a
  character that may not be sent;
* (keys) `eq_of_ofPath?_eq`: no two calls of which the store reads the same are about different records.
-/

namespace AppGateway

namespace BackingCall

/-- The namespace that a call is made in. -/
def ns : BackingCall → String
  | .list ns .. => ns
  | .get ns _ => ns
  | .create ns _ => ns
  | .replace ns .. => ns
  | .patch ns .. => ns
  | .delete ns _ => ns
  | .watch ns .. => ns

/-- The texts that a call puts into its address. -/
def parts (c : BackingCall) : List String := c.ns :: c.itemName?.toList

/-- The segments of the path to what a call is about. -/
def segments (c : BackingCall) : List String :=
  ["", "apis", releaseGroup, releaseVersion, "namespaces", c.ns, releasePlural] ++ c.itemName?.toList

/-- The query of an address that asks for something. -/
def queryText (pairs : List (String × String)) : String :=
  String.join (pairs.map fun pair => "&" ++ Http.encodeForm [pair])

/-- What a call asks of the address, if anything. -/
def query? : BackingCall → Option String
  | .list _ labels fields => some (queryText (selectorPairs labels fields))
  | .get .. => none
  | .create .. => some (queryText [])
  | .replace .. => some (queryText [])
  | .patch _ _ p => some (queryText p.query)
  | .delete .. => some (queryText [])
  | .watch _ labels fields version => some (queryText
      ([("watch", "true"), ("timeoutSeconds", toString watchSeconds)] ++ selectorPairs labels fields
        ++ [("allowWatchBookmarks", "true"), ("resourceVersion", version)]))

/-- The target is what the call is about: nothing of its namespace or name is read as anything else, and these two are
what the store reads in its path. -/
structure Exact (c : BackingCall) (t : Http.Target) : Prop where
  segments : t.segments = c.segments
  query : t.query = c.query?
  read : WireTarget.ofPath? t.path = some (c.ns, c.itemName?)

/-- The namespace of a call and its name, if it has one, hold no delimiter. -/
def Undelimited (c : BackingCall) : Prop := ∀ s ∈ c.parts, Http.Undelimited s

instance (c : BackingCall) : Decidable c.Undelimited := List.decidableBAll _ c.parts

/-- The namespace of a call and its name, if it has one, stand for themselves in a path. -/
def Literal (c : BackingCall) : Prop := ∀ s ∈ c.parts, Http.Literal s

instance (c : BackingCall) : Decidable c.Literal := List.decidableBAll _ c.parts

variable {c : BackingCall}

private theorem collectionAddress_eq (ns : String) :
    collectionAddress ns =
      String.intercalate "/" ["", "apis", releaseGroup, releaseVersion, "namespaces", ns, releasePlural] := by
  simp [collectionAddress, releaseApiVersion, String.intercalate_cons_cons, String.append_assoc, ← String.toList_inj]

private theorem itemAddress_eq (ns name : String) :
    itemAddress ns name =
      String.intercalate "/" ["", "apis", releaseGroup, releaseVersion, "namespaces", ns, releasePlural, name] := by
  rw [itemAddress, collectionAddress_eq]
  simp [String.append_assoc]

/-- An address is the path to what the call is about, and a query if the call asks for something. -/
theorem address_eq (c : BackingCall) :
    c.address = String.intercalate "/" c.segments ++ c.query?.elim "" ("?" ++ ·) := by
  cases c <;>
    simp [address, withQuery, itemAddress_eq, collectionAddress_eq, segments, query?, queryText, itemName?, ns,
      String.append_assoc]

private theorem isQueryChar_of_mem_queryText {pairs : List (String × String)} {ch : Char}
    (h : ch ∈ (queryText pairs).toList) : Http.Target.isQueryChar ch = true := by
  rw [queryText] at h
  induction pairs with
  | nil => simp at h
  | cons pair rest ih =>
    rw [List.map_cons, String.join_cons, String.toList_append, List.mem_append] at h
    rcases h with h | h
    · rw [String.toList_append] at h
      rcases List.mem_append.mp h with hamp | hform
      · have heq : ch = '&' := by simpa using hamp
        rw [heq]
        rfl
      · exact Http.Target.isQueryChar_of_mem_encodeForm hform
    · exact ih h

private theorem isQueryChar_of_mem_query {q : String} (h : c.query? = some q) :
    ∀ ch ∈ q.toList, Http.Target.isQueryChar ch = true := by
  intro ch hch
  cases c <;> cases h <;> exact isQueryChar_of_mem_queryText hch

private theorem forall_mem_segments {p : String → Prop}
    (hfixed : ∀ s ∈ ["", "apis", releaseGroup, releaseVersion, "namespaces", releasePlural], p s) :
    (∀ s ∈ c.segments, p s) ↔ ∀ s ∈ c.parts, p s := by
  simp only [List.forall_mem_cons] at hfixed
  simp only [segments, parts, List.forall_mem_append, List.forall_mem_cons]
  tauto

private theorem undelimited_segments_iff : (∀ s ∈ c.segments, Http.Undelimited s) ↔ c.Undelimited :=
  forall_mem_segments (by decide +kernel)

private theorem target_requestTo (t : Http.Target) (c : BackingCall) : (requestTo t c).target = t := by
  cases c <;> rfl

variable {q : WireRequest}

private theorem of_request? (h : c.request? = some q) : Http.Target.ofText? c.address = some q.target := by
  rw [request?] at h
  split at h
  · cases h
  · obtain ⟨t, ht, rfl⟩ := Option.map_eq_some_iff.mp h
    rw [ht, target_requestTo]

private theorem exists_path (c : BackingCall) : ∃ rest, (String.intercalate "/" c.segments).toList = '/' :: rest :=
  ⟨_, by rw [segments, List.cons_append, List.cons_append, String.intercalate_cons_cons]; simp; rfl⟩

private theorem exists_address (c : BackingCall) : ∃ rest, c.address.toList = '/' :: rest := by
  obtain ⟨rest, hrest⟩ := exists_path c
  exact ⟨_, by rw [address_eq, String.toList_append, hrest, List.cons_append]⟩

private theorem ofText?_address (hc : c.Undelimited) :
    Http.Target.ofText? c.address =
      if (String.intercalate "/" c.segments).toList.all Http.Target.isPathChar then
        some { path := String.intercalate "/" c.segments, query := c.query? }
      else none := by
  obtain ⟨rest, hrest⟩ := exists_path c
  rw [address_eq]
  refine Http.Target.ofText?_eq hrest ?_ fun q hq => isQueryChar_of_mem_query hq
  have hall : (String.intercalate "/" c.segments).toList.all (fun ch => ch ≠ '?' ∧ ch ≠ '#') = true := by
    rw [Http.Target.all_intercalate _ rfl, List.all_eq_true]
    exact fun s hs => List.all_eq_true.mpr fun ch hch =>
      decide_eq_true (undelimited_segments_iff.mpr hc s hs ch hch).2
  exact fun ch hch => of_decide_eq_true (List.all_eq_true.mp hall ch hch)

/-- A request has the path and the query of the call exactly when neither the namespace nor the name holds a delimiter. -/
theorem whole_iff_undelimited (h : c.request? = some q) :
    q.target.segments = c.segments ∧ q.target.query = c.query? ↔ c.Undelimited := by
  have hread := of_request? h
  constructor
  · -- What was read as a segment holds no delimiter, whatever the address was put together from.
    rintro ⟨hsegments, -⟩
    obtain ⟨rest, haddress⟩ := exists_address c
    have hwhole : ∀ s ∈ c.segments, Http.Undelimited s := by
      intro s hs ch hch
      rw [← hsegments] at hs
      have hmem := Http.Target.of_mem_segments hs hch
      exact ⟨hmem.2, Http.Target.of_ofText? haddress hread ch hmem.1⟩
    exact undelimited_segments_iff.mp hwhole
  · intro hc
    rw [ofText?_address hc] at hread
    split at hread
    · have htarget := Option.some.inj hread
      refine ⟨Http.Target.segments_of_intercalate (by simp [segments]) (undelimited_segments_iff.mpr hc) ?_, ?_⟩
      · rw [← htarget]
      · rw [← htarget]
    · cases hread

/-- In the path of a call the store reads the namespace and the name as they are, unless there is an escape in them. -/
theorem ofPath?_eq_iff {t : Http.Target} (h : t.segments = c.segments) :
    WireTarget.ofPath? t.path = some (c.ns, c.itemName?) ↔ ∀ s ∈ c.parts, Http.Unescaped s := by
  have hsplit : Text.splitOn '/' t.path.toList = c.segments.map String.toList := by
    rw [← h, Http.Target.segments, List.map_map]
    simp
  have hfixed (s : String) (hs : '%' ∉ s.toList) : Http.decodeSegment? s.toList = some s :=
    (Http.decodeSegment?_eq_iff s).mpr (Http.unescaped_of_not_mem hs)
  have hapis := hfixed "apis" (by decide)
  have hgroup := hfixed releaseGroup (by decide)
  have hversion := hfixed releaseVersion (by decide)
  have hnamespaces := hfixed "namespaces" (by decide)
  have hplural := hfixed releasePlural (by decide)
  simp only [← Http.decodeSegment?_eq_iff, parts, List.forall_mem_cons]
  rw [WireTarget.ofPath?, hsplit]
  simp only [segments, List.cons_append, List.nil_append, List.map_cons, List.drop_succ_cons, List.drop_zero,
    List.mapM_cons, hapis, hgroup, hversion, hnamespaces, hplural, Option.bind_eq_bind, Option.bind_some,
    Option.pure_def]
  cases c.itemName? with
  | none =>
    cases Http.decodeSegment? c.ns.toList <;> simp
  | some name =>
    cases Http.decodeSegment? c.ns.toList <;> cases hname : Http.decodeSegment? name.toList <;> simp [hname]

/-- A request goes to what the call is about exactly when the namespace and the name stand for themselves. -/
theorem exact_iff_literal (h : c.request? = some q) : c.Exact q.target ↔ c.Literal := by
  have hliteral : c.Literal ↔ c.Undelimited ∧ ∀ s ∈ c.parts, Http.Unescaped s := by
    simp only [Literal, Http.Literal, Undelimited, imp_and, forall_and]
  rw [hliteral, ← whole_iff_undelimited h]
  constructor
  · intro hexact
    exact ⟨⟨hexact.segments, hexact.query⟩, (ofPath?_eq_iff hexact.segments).mp hexact.read⟩
  · rintro ⟨⟨hsegments, hquery⟩, hunescaped⟩
    exact ⟨hsegments, hquery, (ofPath?_eq_iff hsegments).mpr hunescaped⟩

theorem Literal.undelimited (hc : c.Literal) : c.Undelimited := fun s hs => (hc s hs).1

/-- A call without delimiters is sent unless its name is empty or one of its characters may not be sent. -/
theorem request?_isSome_iff (hc : c.Undelimited) :
    c.request?.isSome = true ↔ c.itemName? ≠ some "" ∧
      ∀ s ∈ c.parts, s.toList.all Http.Target.isPathChar = true := by
  have hpath : (String.intercalate "/" c.segments).toList.all Http.Target.isPathChar = true ↔
      ∀ s ∈ c.parts, s.toList.all Http.Target.isPathChar = true := by
    rw [Http.Target.all_intercalate _ rfl, List.all_eq_true]
    exact forall_mem_segments (by decide +kernel)
  rw [request?, ofText?_address hc, ← hpath]
  by_cases hname : c.itemName? = some ""
  · simp [hname]
  · cases (String.intercalate "/" c.segments).toList.all Http.Target.isPathChar <;> simp [hname]

/-- Calls of which the store reads the same are about the same. -/
theorem eq_of_ofPath?_eq {c' : BackingCall} {q' : WireRequest} (hc : c.Literal) (hc' : c'.Literal)
    (h : c.request? = some q) (h' : c'.request? = some q')
    (hread : WireTarget.ofPath? q.target.path = WireTarget.ofPath? q'.target.path) :
    c.ns = c'.ns ∧ c.itemName? = c'.itemName? := by
  rw [((exact_iff_literal h).mpr hc).read, ((exact_iff_literal h').mpr hc').read] at hread
  exact Prod.mk.inj (Option.some.inj hread)

end BackingCall

end AppGateway
