import AppGateway.Proofs.Http.Handling
import AppGateway.Proofs.Json.Reparse
import AppGateway.Proofs.Sample
import AppGateway.Proofs.Text.Utf8
import AppGateway.Proofs.Watch.Items

/-!
# Streamed events are recovered

A watch is answered with a line of JSON for each event.  No line is empty or has a newline in it, and each is read back
as its event, so that a client recovers the events whatever the pieces in which the body arrives.

* (step) `LineReader.chunk_line`: the bytes of a line and its newline complete this line;
* (run) `LineReader.chunk_lines`: the bytes of lines complete these lines; `LineReader.lines_prefix`: lines that are
  complete stay as they are;
* (lines) `newline_not_mem`, `lineValue?_encode`: a written value has no newline in it and is read back;
* (main result) `streamed_events_are_recovered`.
-/

namespace AppGateway

namespace Http

/-- The byte of a newline. -/
def newline : Nat := 10

/-- The bytes of a body. -/
def Response.bytes (r : Response) : List Nat := Utf8.encode r.body.toList

/-- The value of a line, which is read by the grammar of JSON. -/
def lineValue? (line : List Nat) : Option Json :=
  (Utf8.decode? line).bind fun text => (Source.parse text).bind Source.json?

/-- A reader of bytes that arrive in pieces: the complete lines, and what there is of the next one. -/
structure LineReader where
  lines : List (List Nat) := []
  pending : List Nat := []
deriving DecidableEq, Repr, Inhabited

namespace LineReader

/-- Takes a byte; a newline completes the line. -/
def byte (r : LineReader) (b : Nat) : LineReader :=
  if b = newline then ⟨r.lines ++ [r.pending], []⟩ else ⟨r.lines, r.pending ++ [b]⟩

/-- Takes a piece. -/
def chunk (r : LineReader) (bytes : List Nat) : LineReader := bytes.foldl byte r

/-- Takes pieces one after another. -/
def chunks (r : LineReader) (pieces : List (List Nat)) : LineReader := pieces.foldl chunk r

variable (r : LineReader)

/-- It does not matter where the pieces end. -/
private theorem chunks_eq (pieces : List (List Nat)) : r.chunks pieces = r.chunk pieces.flatten :=
  List.foldl_flatten.symm

private theorem chunk_append (bytes more : List Nat) : r.chunk (bytes ++ more) = (r.chunk bytes).chunk more :=
  List.foldl_append

/-- Bytes without a newline are kept for the next line. -/
private theorem chunk_pending {bytes : List Nat} (h : newline ∉ bytes) : r.chunk bytes =
    ⟨r.lines, r.pending ++ bytes⟩ := by
  induction bytes generalizing r with
  | nil => rw [List.append_nil]; rfl
  | cons b bytes ih =>
    obtain ⟨hb, hbytes⟩ := not_or.mp (List.mem_cons.not.mp h)
    rw [chunk, List.foldl_cons, byte, if_neg (Ne.symm hb)]
    exact (ih _ hbytes).trans (by rw [List.append_assoc, List.singleton_append])

/-- A line and its newline complete this line. -/
theorem chunk_line {line : List Nat} (h : newline ∉ line) :
    r.chunk (line ++ [newline]) = ⟨r.lines ++ [r.pending ++ line], []⟩ := by
  rw [chunk_append, chunk_pending r h]
  show byte _ newline = _
  exact if_pos rfl

/-- Lines complete these lines. -/
theorem chunk_lines {lines : List (List Nat)} (h : ∀ line ∈ lines, newline ∉ line) (read : List (List Nat)) :
    chunk ⟨read, []⟩ (lines.flatMap (· ++ [newline])) = ⟨read ++ lines, []⟩ := by
  induction lines generalizing read with
  | nil => rw [List.append_nil]; rfl
  | cons line lines ih =>
    obtain ⟨hline, hlines⟩ := List.forall_mem_cons.mp h
    rw [List.flatMap_cons, chunk_append, chunk_line _ hline, ih hlines, List.nil_append, List.append_assoc,
      List.singleton_append]

/-- Complete lines stay as they are. -/
theorem lines_prefix (bytes : List Nat) : r.lines <+: (r.chunk bytes).lines := by
  induction bytes generalizing r with
  | nil => exact List.prefix_rfl
  | cons b bytes ih =>
    have hbyte : r.lines <+: (r.byte b).lines := by
      rw [byte]
      split
      · exact List.prefix_append _ _
      · exact List.prefix_rfl
    exact hbyte.trans (ih (r.byte b))

end LineReader

/-! ### Written values as lines -/

/-- There is no newline in a written value. -/
theorem newline_not_mem (j : Json) : newline ∉ Utf8.encode j.chars := fun hmem =>
  absurd (Utf8.printable_encode (Json.printable_chars j) newline hmem) (by decide)

/-- A line is read as the value that was written on it. -/
theorem lineValue?_encode (j : Json) : lineValue? (Utf8.encode j.chars) = some j := by
  rw [lineValue?, Utf8.decode?_encode]
  exact Json.reparse j

private theorem encode_chars_ne_nil (j : Json) : Utf8.encode j.chars ≠ [] := by
  intro hnil
  have hvalue := lineValue?_encode j
  rw [hnil, lineValue?, show Utf8.decode? [] = some [] from Utf8.decode?_encode []] at hvalue
  cases hvalue

private theorem bytes_lines (values : List Json) :
    (Response.lines values).bytes = (values.map fun j => Utf8.encode j.chars).flatMap (· ++ [newline]) := by
  rw [Response.bytes, Response.lines, List.flatMap_map]
  induction values with
  | nil => rfl
  | cons j values ih =>
    rw [List.map_cons, String.join_cons, String.toList_append, Utf8.encode_append, ih, List.flatMap_cons,
      String.toList_append, Utf8.encode_append, Json.toText, String.toList_ofList]
    rfl

/-- A body is made of lines, each of which is read as one of these values. -/
structure Framed (body : List Nat) (values : List Json) (lines : List (List Nat)) : Prop where
  /-- Split at the newlines the body is these lines, and nothing after the last one. -/
  split : body.splitOn newline = lines ++ [[]]
  /-- No line is empty. -/
  nonempty : ∀ line ∈ lines, line ≠ []
  /-- Each line is read as the value in its place, and there are as many lines as values. -/
  values : lines.map lineValue? = values.map some
  /-- When the body has arrived, in whatever pieces, these lines have been read and nothing is pending. -/
  whole : ∀ pieces, pieces.flatten = body → LineReader.chunks {} pieces = { lines, pending := [] }
  /-- When a part of it has arrived, the lines that have been read are the first ones of these. -/
  arrived : ∀ pieces, pieces.flatten <+: body → (LineReader.chunks {} pieces).lines <+: lines

private theorem splitOn_lines {lines : List (List Nat)} (h : ∀ line ∈ lines, newline ∉ line) :
    (lines.flatMap (· ++ [newline])).splitOn newline = lines ++ [[]] := by
  rw [List.splitOn_eq_splitOnP]
  induction lines with
  | nil => rfl
  | cons line lines ih =>
    obtain ⟨hline, hlines⟩ := List.forall_mem_cons.mp h
    have hplain : ∀ b ∈ line, (b == newline) = false := fun b hb => by
      rw [beq_eq_false_iff_ne]
      rintro rfl
      exact hline hb
    rw [List.flatMap_cons, List.append_assoc, List.singleton_append,
      List.splitOnP_append_cons_of_forall_mem hplain _ (beq_self_eq_true _), ih hlines, List.cons_append]

/-- A body of one value a line is framed by its lines. -/
private theorem framed_lines (values : List Json) :
    Framed (Response.lines values).bytes values (values.map fun j => Utf8.encode j.chars) := by
  have hlines : ∀ line ∈ values.map fun j => Utf8.encode j.chars, newline ∉ line := by
    intro line hline
    obtain ⟨j, -, rfl⟩ := List.mem_map.mp hline
    exact newline_not_mem j
  have hwhole := LineReader.chunk_lines hlines []
  rw [bytes_lines]
  refine ⟨splitOn_lines hlines, ?_, ?_, fun pieces hpieces => ?_, fun pieces hpieces => ?_⟩
  · intro line hline
    obtain ⟨j, -, rfl⟩ := List.mem_map.mp hline
    exact encode_chars_ne_nil j
  · rw [List.map_map]
    exact List.map_congr_left fun j _ => lineValue?_encode j
  · rw [LineReader.chunks_eq, hpieces]
    exact hwhole
  · obtain ⟨more, hmore⟩ := hpieces
    have hprefix := LineReader.lines_prefix (LineReader.chunks {} pieces) more
    rw [LineReader.chunks_eq, ← LineReader.chunk_append, hmore, hwhole] at hprefix
    rw [LineReader.chunks_eq]
    exact hprefix

/-! ### Events -/

/-- The body that is streamed for a row of events is framed by one line for each of them, and a watch is answered with
this body. -/
theorem streamed_events_are_recovered :
    (∀ events : List ApplicationEvent, ∃ lines, Framed (Response.lines (events.map ApplicationEvent.toJson)).bytes
      (events.map fun e => .object [("type", .string e.kind), ("object", e.object)]) lines) ∧
    ∀ {σ : Type} {s : Server} {r : Request} {route : Route} {place : Place}
      (answer : (c : BackingCall) → σ → c.Answer × σ) (st : σ) (d : ResourceDefinition) (items : List WatchItem),
      r.Reaches route → route.place? = some place → r.method ≠ "HEAD" →
      ((s.operation r place).run.run answer st).1 = .ok (d, .watched items) →
        ((s.handle r).run answer st).1 =
          .lines ((Session.onItems d items s.shutdown).events.map ApplicationEvent.toJson) := by
  constructor
  · exact fun events => ⟨_, framed_lines (events.map ApplicationEvent.toJson)⟩
  · intro σ s r route place answer st d items hreaches hplace hhead hwatched
    rw [Server.handle_of_reaches hreaches hplace, Exchange.run_andThen_done, hwatched]
    exact if_neg hhead

/-- An error whose message has a line break, quotes and a control character in it, for examples. -/
def tooOld : ErrorResponse where
  message := "too old:\n\"5\" \u0001"
  reason := "Expired"
  code := 410

/-- An application with a fraction in its values and a line break in a key, for examples. -/
def scaledApp : Application :=
  { sampleApp with spec := some (.object [("ratio\n", .number (.real ⟨true, 7205759403792794, -56, by decide⟩))]) }

/-- Answers a watch with these items and every other call with an error, for examples. -/
def relays (items : List WatchItem) (c : BackingCall) (st : Unit) : c.Answer × Unit :=
  match c with
  | .watch .. => (.ok items, st)
  | _ => (.error (.api { code := 500 }), st)

/-- A request to watch the applications of a type, for examples. -/
def sampleWatch (ns : String) : Request where
  method := "GET"
  target := { path := "/apis/" ++ groupVersion ++ "/namespaces/" ++ ns ++ "/webs", query := some "watch=true" }

/-- Two events are recovered from the body that is streamed for them, and a watch that an error ends is answered with
this error on a line. -/
theorem line_breaks_are_recovered :
    let events : List ApplicationEvent := [.modified scaledApp, .error tooOld]
    (∃ lines, Framed (Response.lines (events.map ApplicationEvent.toJson)).bytes
      [.object [("type", .string "MODIFIED"), ("object", scaledApp.toJson)],
        .object [("type", .string "ERROR"), ("object", ApplicationEvent.errorStatus tooOld)]] lines) ∧
    ((Server.sampleServer.handle (sampleWatch "tenant")).run (relays [.ok (.error tooOld)]) ()).1 =
      .lines [(ApplicationEvent.error tooOld).toJson] := by
  intro events
  obtain ⟨hframed, hanswered⟩ := streamed_events_are_recovered
  refine ⟨hframed events, ?_⟩
  have hreaches : (sampleWatch "tenant").Reaches (.collection apiGroup apiVersion "tenant" "webs") :=
    ⟨by decide +kernel, by decide +kernel, by decide +kernel, by decide +kernel⟩
  have hwatched : ((Server.sampleServer.operation (sampleWatch "tenant")
      ⟨apiGroup, apiVersion, "tenant", "webs", none⟩).run.run (relays [.ok (.error tooOld)]) ()).1 =
        .ok (sampleType, .watched [.ok (.error tooOld)]) := by
    have hquery : (sampleWatch "tenant").query = { watch := some "true" } := by decide +kernel
    have hasked : (sampleWatch "tenant").asked none = .ok (.watch {}) := by
      rw [Request.asked, hquery]
      rfl
    simp only [Server.operation, Request.attempt, hasked]
    rfl
  have hevents : (Session.onItems sampleType [.ok (.error tooOld)] false).events = [.error tooOld] :=
    Session.events_onItems _ _
  rw [hanswered (relays [.ok (.error tooOld)]) () sampleType _ hreaches rfl (by decide) hwatched]
  exact congrArg (fun events => Response.lines (events.map ApplicationEvent.toJson)) hevents

end Http

end AppGateway
