import AppGateway.Proofs.Watch.Delivery
import Mathlib.Data.List.Infix
import Mathlib.Logic.Function.Basic

/-!
# The watches of one server

Every watch of a server has a token, by which it is cancelled.  The token comes from that of the request, and this from
that of the server; who cancels a token, cancels all that come from it.  A watch is closed by being stopped or dropped,
or by the cancellation of its request or of anything above it, and by nothing else (`cancelled_iff`).

* (step) `Session.silent_apply`: whatever becomes of a closed session, nothing is pulled and nothing new is handed over;
* (step) `AgreeOff.apply`: the moves of a watch are noticed by no other watch;
* (result) `closed_watches_stay_silent`.
-/

namespace AppGateway

/-- A cancellation token, told by the way that leads to it from the token of the server, which is the empty one. -/
abbrev Token := List Nat

/-- A watch of a server.  Its own token is a child of the token of the request that it was opened for. -/
structure ServedWatch where
  context : Token
  run : WatchRun

/-- The watches of a server, and the tokens cancelled so far. -/
structure Watches (ι : Type) where
  cancelled : List Token := []
  watch? : ι → Option ServedWatch := fun _ => none

/-- A move at a server. -/
inductive ServerMove (ι : Type) where
  /-- A watch is opened for a request, unless it is open already. -/
  | spawn (i : ι) (d : ResourceDefinition) (context : Token)
  | move (i : ι) (m : WatchMove)
  | cancel (token : Token)

namespace ServedWatch

/-- A watch that has just been opened, cancelled if its request is. -/
def opened (d : ResourceDefinition) (context : Token) (cancelled : List Token) : ServedWatch where
  context
  run := if ∃ token ∈ cancelled, token <+: context then (WatchRun.start d).apply .cancel else .start d

/-- A watch after the cancellation of a token, which reaches it if its token comes from there. -/
def reached (x : ServedWatch) (token : Token) : ServedWatch :=
  if token <+: x.context then { x with run := x.run.apply .cancel } else x

end ServedWatch

namespace Watches

variable {ι : Type} [DecidableEq ι]

/-- A server without watches. -/
def start : Watches ι := {}

/-- The watches after a move. -/
def apply (w : Watches ι) : ServerMove ι → Watches ι
  | .spawn i d context => { w with
      watch? := Function.update w.watch? i ((w.watch? i).or (some (.opened d context w.cancelled))) }
  | .move i m => { w with
      watch? := Function.update w.watch? i ((w.watch? i).map fun x => { x with run := x.run.apply m }) }
  | .cancel token => {
      cancelled := token :: w.cancelled
      watch? := fun i => (w.watch? i).map (·.reached token) }

/-- The watches after a number of moves. -/
def run (w : Watches ι) (moves : List (ServerMove ι)) : Watches ι := moves.foldl apply w

end Watches

/-! ### A closed session -/

namespace Session

/-- A session that was closed has done nothing since but to let go of what it had. -/
structure Silent (s s' : Session) : Prop where
  cancelled : s'.cancelled = true
  pulled : s'.pulled = s.pulled
  slot : s'.slot = s.slot ∨ s'.slot = none
  held : s'.held = s.held ∨ s'.held = none

private theorem Silent.refl {s : Session} (h : s.cancelled = true) : s.Silent s := ⟨h, rfl, .inl rfl, .inl rfl⟩

private theorem Silent.trans {s t u : Session} (h : s.Silent t) (h' : t.Silent u) : s.Silent u where
  cancelled := h'.cancelled
  pulled := h'.pulled.trans h.pulled
  slot := by
    rcases h'.slot with hslot | hslot
    · exact h.slot.imp hslot.trans hslot.trans
    · exact .inr hslot
  held := by
    rcases h'.held with hheld | hheld
    · exact h.held.imp hheld.trans hheld.trans
    · exact .inr hheld

private theorem recv_of_cancelled {s : Session} (h : s.cancelled = true) : s.recv = (.ended, s) := by
  rw [recv, if_pos h]

private theorem state_of_cancelled {s : Session} (h : s.cancelled = true) : s.state = .closed := by
  simp [state, h]

private theorem silent_take {s : Session} (h : s.cancelled = true) : s.Silent s.take.2 := by
  rw [take]
  split
  · exact ⟨h, rfl, .inr rfl, .inl rfl⟩
  · exact .refl h

private theorem silent_stop {s : Session} (h : s.cancelled = true) : s.Silent s.stop.2 := by
  rw [stop]
  split
  · exact .refl h
  · exact ⟨rfl, rfl, .inl rfl, .inl rfl⟩

/-- The task of a closed session does nothing but end. -/
private theorem silent_of_advances {s t : Session} (h : s.cancelled = true) (hadvances : WatchRun.Advances s t) :
    s.Silent t := by
  cases hadvances with
  | same => exact .refl h
  | feed feed feedEnded => exact ⟨h, rfl, .inl rfl, .inl rfl⟩
  | task hstep =>
    obtain ⟨-, ⟨-, rfl⟩ | ⟨hopen, -⟩⟩ := WatchRun.step?_cases hstep
    · exact ⟨h, rfl, .inl rfl, .inr rfl⟩
    · cases hopen.symm.trans h
  | take => exact silent_take h

/-- Whatever becomes of a closed session, it stays silent. -/
theorem silent_apply {r : WatchRun} (h : r.session.cancelled = true) (m : WatchMove) :
    r.session.Silent (r.apply m).session := by
  cases hm : m.closes with
  | false => exact silent_of_advances h (WatchRun.advances_apply r hm)
  | true =>
    have hstop := silent_stop h
    obtain rfl | rfl | rfl := WatchMove.eq_of_closes hm
    · exact hstop
    · exact ⟨rfl, rfl, .inl rfl, .inl rfl⟩
    · exact ⟨hstop.cancelled, hstop.pulled, .inr rfl, hstop.held⟩

end Session

namespace WatchRun

variable {d : ResourceDefinition} {r : WatchRun}

/-- A session is closed after a move that closes it, and after any other move if it was closed before. -/
theorem Sound.cancelled_apply_iff (h : Sound d r) (m : WatchMove) :
    (r.apply m).session.cancelled = true ↔ r.session.cancelled = true ∨ m.closes = true := by
  cases hm : m.closes with
  | false => simp [(advances_apply r hm).flags.1]
  | true =>
    have hclosed : (r.apply m).session.cancelled = true := by
      obtain rfl | rfl | rfl := WatchMove.eq_of_closes hm
      · rw [WatchRun.apply, Session.stop]
        split
        · rename_i hstopped
          exact h.stopped hstopped
        · rfl
      · rfl
      · rw [WatchRun.apply, drop_eq h]
    simp [hclosed]

end WatchRun

namespace Watches

variable {ι : Type} [DecidableEq ι] {w w' : Watches ι} {i j : ι} {x : ServedWatch}

private theorem run_snoc (w : Watches ι) (moves : List (ServerMove ι)) (m : ServerMove ι) :
    w.run (moves ++ [m]) = (w.run moves).apply m := by
  rw [run, List.foldl_append]
  rfl

private theorem run_append (w : Watches ι) (moves more : List (ServerMove ι)) : w.run (moves ++ more) =
    (w.run moves).run more :=
  List.foldl_append

/-! ### One watch among the others -/

/-- What a move at the server makes of a watch. -/
def turned (i : ι) (x : ServedWatch) : ServerMove ι → ServedWatch
  | .spawn .. => x
  | .move j m => if j = i then { x with run := x.run.apply m } else x
  | .cancel token => x.reached token

private theorem watch?_apply (h : w.watch? i = some x) (m : ServerMove ι) : (w.apply m).watch? i = some
    (turned i x m) := by
  cases m with
  | spawn j d context =>
    rw [apply, turned]
    by_cases hj : j = i
    · subst hj
      simp [h]
    · simp [Ne.symm hj, h]
  | move j m =>
    rw [apply, turned]
    by_cases hj : j = i
    · subst hj
      simp [h]
    · simp [hj, Ne.symm hj, h]
  | cancel token =>
    rw [apply, turned]
    simp [h]

private theorem context_turned (i : ι) (x : ServedWatch) (m : ServerMove ι) : (turned i x m).context = x.context := by
  cases m with
  | spawn => rfl
  | move j m =>
    rw [turned]
    split <;> rfl
  | cancel token =>
    rw [turned, ServedWatch.reached]
    split <;> rfl

/-- A closed watch stays silent at every move. -/
private theorem silent_turned (h : x.run.session.cancelled = true) (m : ServerMove ι) :
    x.run.session.Silent (turned i x m).run.session := by
  cases m with
  | spawn => exact .refl h
  | move j m =>
    rw [turned]
    split
    · exact Session.silent_apply h m
    · exact .refl h
  | cancel token =>
    rw [turned, ServedWatch.reached]
    split
    · exact Session.silent_apply h .cancel
    · exact .refl h

private theorem silent_run (h : w.watch? i = some x) (hclosed : x.run.session.cancelled = true)
    (more : List (ServerMove ι)) :
    ∃ x', (w.run more).watch? i = some x' ∧ x'.context = x.context ∧ x.run.session.Silent x'.run.session := by
  induction more generalizing w x with
  | nil => exact ⟨x, h, rfl, .refl hclosed⟩
  | cons m more ih =>
    have hsilent := silent_turned (i := i) hclosed m
    obtain ⟨x', hx', hcontext, hrest⟩ := ih (watch?_apply h m) hsilent.cancelled
    exact ⟨x', hx', hcontext.trans (context_turned i x m), hsilent.trans hrest⟩

/-! ### What closes a watch -/

/-- In a run, a watch was stopped or dropped while it was open, or its request or something above it was cancelled. -/
def Reached (moves : List (ServerMove ι)) (i : ι) (context : Token) : Prop :=
  (∃ token, .cancel token ∈ moves ∧ token <+: context) ∨
    ∃ before m after, moves = before ++ .move i m :: after ∧ m.closes = true ∧ ((start.run before).watch? i).isSome

private theorem reached_snoc {moves : List (ServerMove ι)} {m : ServerMove ι} {context : Token} :
    Reached (moves ++ [m]) i context ↔ Reached moves i context ∨ (∃ token, m = .cancel token ∧ token <+: context) ∨
      ∃ m', m = .move i m' ∧ m'.closes = true ∧ ((start.run moves).watch? i).isSome := by
  constructor
  · rintro (⟨token, hmem, hprefix⟩ | ⟨before, m', after, hsplit, hcloses, hopen⟩)
    · rcases List.mem_append.mp hmem with hmem | hmem
      · exact .inl (.inl ⟨token, hmem, hprefix⟩)
      · exact .inr (.inl ⟨token, (List.mem_singleton.mp hmem).symm, hprefix⟩)
    · -- The move that closes the watch is the last one, or an earlier one.
      rcases List.eq_nil_or_concat after with rfl | ⟨after', last, rfl⟩
      · obtain ⟨rfl, hm⟩ := List.append_inj' hsplit rfl
        exact .inr (.inr ⟨m', List.singleton_inj.mp hm, hcloses, hopen⟩)
      · rw [List.concat_eq_append, ← List.cons_append, ← List.append_assoc] at hsplit
        obtain ⟨rfl, -⟩ := List.append_inj' hsplit rfl
        exact .inl (.inr ⟨before, m', after', rfl, hcloses, hopen⟩)
  · rintro ((⟨token, hmem, hprefix⟩ | ⟨before, m', after, rfl, hcloses, hopen⟩) | ⟨token, rfl, hprefix⟩ |
      ⟨m', rfl, hcloses, hopen⟩)
    · exact .inl ⟨token, List.mem_append_left _ hmem, hprefix⟩
    · exact .inr ⟨before, m', after ++ [m], by simp, hcloses, hopen⟩
    · exact .inl ⟨token, by simp, hprefix⟩
    · exact .inr ⟨moves, m', [], rfl, hcloses, hopen⟩

private theorem isSome_run (h : (w.watch? i).isSome) (moves : List (ServerMove ι)) : ((w.run moves).watch? i).isSome :=
    by
  induction moves generalizing w with
  | nil => exact h
  | cons m moves ih =>
    obtain ⟨x, hx⟩ := Option.isSome_iff_exists.mp h
    exact ih (by rw [watch?_apply hx, Option.isSome_some])

/-- A watch that is not open yet is closed only by the cancellation of what it comes from. -/
private theorem reached_of_none {moves : List (ServerMove ι)} (h : (start.run moves).watch? i = none)
    (context : Token) : Reached moves i context ↔ ∃ token, .cancel token ∈ moves ∧ token <+: context := by
  refine ⟨?_, .inl⟩
  rintro (hcancel | ⟨before, m, after, rfl, -, hopen⟩)
  · exact hcancel
  · have hsome := isSome_run hopen (.move i m :: after)
    rw [← run_append, h] at hsome
    cases hsome

/-- A watch is closed after a move at the server if it was closed before, or if the move closes it. -/
private theorem cancelled_turned_iff {d : ResourceDefinition} (h : WatchRun.Sound d x.run) (m : ServerMove ι) :
    (turned i x m).run.session.cancelled = true ↔ x.run.session.cancelled = true ∨
      (∃ token, m = .cancel token ∧ token <+: x.context) ∨ ∃ m', m = .move i m' ∧ m'.closes = true := by
  cases m with
  | spawn => simp [turned]
  | move j m =>
    by_cases hj : j = i
    · simp [turned, hj, h.cancelled_apply_iff]
    · simp [turned, hj]
  | cancel token =>
    by_cases hprefix : token <+: x.context
    · have hclosed : (x.run.apply .cancel).session.cancelled = true := rfl
      simp [turned, ServedWatch.reached, hprefix, hclosed]
    · simp [turned, ServedWatch.reached, hprefix]

private theorem sound_turned {d : ResourceDefinition} (h : WatchRun.Sound d x.run) (m : ServerMove ι) :
    WatchRun.Sound d (turned i x m).run := by
  cases m with
  | spawn => exact h
  | move j m =>
    rw [turned]
    split
    · exact h.apply m
    · exact h
  | cancel token =>
    rw [turned, ServedWatch.reached]
    split
    · exact h.cancel
    · exact h

private theorem sound_opened (d : ResourceDefinition) (context : Token) (cancelled : List Token) :
    WatchRun.Sound d (ServedWatch.opened d context cancelled).run := by
  rw [ServedWatch.opened]
  dsimp only
  split
  · exact (WatchRun.sound_start d).cancel
  · exact WatchRun.sound_start d

private theorem cancelled_opened_iff {d : ResourceDefinition} {context : Token} {cancelled : List Token} :
    (ServedWatch.opened d context cancelled).run.session.cancelled = true ↔ ∃ token ∈ cancelled, token <+: context := by
  rw [ServedWatch.opened]
  dsimp only
  split
  · rename_i hreached
    exact ⟨fun _ => hreached, fun _ => rfl⟩
  · rename_i hfree
    refine ⟨fun hclosed => ?_, fun hreached => absurd hreached hfree⟩
    cases hclosed

/-- A watch that was not there before a move was opened by it. -/
private theorem opened_of_none {m : ServerMove ι} (h : w.watch? i = none) (hx : (w.apply m).watch? i = some x) :
    ∃ d context, m = .spawn i d context ∧ x = .opened d context w.cancelled := by
  cases m with
  | spawn j d context =>
    by_cases hi : i = j
    · subst hi
      simp only [apply, h, Function.update_self, Option.none_or, Option.some.injEq] at hx
      exact ⟨d, context, rfl, hx.symm⟩
    · simp [apply, hi, h] at hx
  | move j m =>
    by_cases hi : i = j
    · subst hi
      simp [apply, h] at hx
    · simp [apply, hi, h] at hx
  | cancel token => simp [apply, h] at hx

/-- The account of a run of the server. -/
structure Tracked (moves : List (ServerMove ι)) (w : Watches ι) : Prop where
  cancelled : ∀ token, token ∈ w.cancelled ↔ .cancel token ∈ moves
  sound : ∀ i x, w.watch? i = some x → ∃ d, WatchRun.Sound d x.run
  closed : ∀ i x, w.watch? i = some x → (x.run.session.cancelled = true ↔ Reached moves i x.context)

private theorem cancelled_apply (w : Watches ι) (m : ServerMove ι) (token : Token) :
    token ∈ (w.apply m).cancelled ↔ token ∈ w.cancelled ∨ m = .cancel token := by
  cases m with
  | spawn => simp [apply]
  | move => simp [apply]
  | cancel token' =>
    simp only [apply, List.mem_cons, ServerMove.cancel.injEq]
    rw [or_comm, eq_comm]

private theorem tracked_run (moves : List (ServerMove ι)) : Tracked moves (start.run moves) := by
  -- The last move is taken off, since what closes a watch depends on whether it was open before.
  induction moves using List.reverseRecOn with
  | nil => exact ⟨by simp [run, start], by simp [run, start], by simp [run, start]⟩
  | append_singleton moves m ih =>
    rw [run_snoc]
    have htokens : ∀ token, token ∈ ((start.run moves).apply m).cancelled ↔ .cancel token ∈ moves ++ [m] := by
      intro token
      rw [cancelled_apply, ih.cancelled, List.mem_append, List.mem_singleton, eq_comm]
    refine ⟨htokens, fun i x hx => ?_, fun i x hx => ?_⟩
    · cases hold : (start.run moves).watch? i with
      | none =>
        obtain ⟨d, context, -, rfl⟩ := opened_of_none hold hx
        exact ⟨d, sound_opened d context _⟩
      | some y =>
        cases (watch?_apply hold m).symm.trans hx
        obtain ⟨d, hsound⟩ := ih.sound i y hold
        exact ⟨d, sound_turned hsound m⟩
    · cases hold : (start.run moves).watch? i with
      | none =>
        obtain ⟨d, context, rfl, rfl⟩ := opened_of_none hold hx
        rw [cancelled_opened_iff, reached_snoc, reached_of_none hold]
        simp [ih.cancelled, ServedWatch.opened]
      | some y =>
        cases (watch?_apply hold m).symm.trans hx
        obtain ⟨d, hsound⟩ := ih.sound i y hold
        rw [cancelled_turned_iff hsound, context_turned, reached_snoc, ih.closed i y hold, hold]
        simp

/-! ### The other watches -/

/-- Two servers differ at one watch at most. -/
def AgreeOff (j : ι) (w w' : Watches ι) : Prop := w.cancelled = w'.cancelled ∧ ∀ i, i ≠ j → w.watch? i = w'.watch? i

private theorem agreeOff_move (w : Watches ι) (j : ι) (m : WatchMove) : AgreeOff j (w.apply (.move j m)) w := by
  refine ⟨rfl, fun i hi => ?_⟩
  rw [apply]
  simp [hi]

/-- No move makes a difference at another watch. -/
theorem AgreeOff.apply (h : AgreeOff j w w') (m : ServerMove ι) : AgreeOff j (w.apply m) (w'.apply m) := by
  obtain ⟨hcancelled, hwatch⟩ := h
  cases m with
  | spawn k d context =>
    refine ⟨hcancelled, fun i hi => ?_⟩
    by_cases hk : i = k
    · subst hk
      simp [Watches.apply, hcancelled, hwatch i hi]
    · simp [Watches.apply, hk, hwatch i hi]
  | move k m =>
    refine ⟨hcancelled, fun i hi => ?_⟩
    by_cases hk : i = k
    · subst hk
      simp [Watches.apply, hwatch i hi]
    · simp [Watches.apply, hk, hwatch i hi]
  | cancel token =>
    refine ⟨by simp [Watches.apply, hcancelled], fun i hi => ?_⟩
    simp [Watches.apply, hwatch i hi]

private theorem AgreeOff.run (h : AgreeOff j w w') (moves : List (ServerMove ι)) : AgreeOff j (w.run moves)
    (w'.run moves) := by
  induction moves generalizing w w' with
  | nil => exact h
  | cons m moves ih => exact ih (h.apply m)

/-- A watch is closed by being stopped or dropped or by the cancellation of what it comes from, and by nothing else.
From then on it is closed for good: a poll tells of the end, and the task pulls nothing and puts nothing into the slot.
What is done with a watch makes no difference to any other one, and after the cancellation of the token of the server no
watch is open any more. -/
theorem closed_watches_stay_silent (moves : List (ServerMove ι)) :
    let w := start.run moves
    (∀ i x, w.watch? i = some x →
      (x.run.session.cancelled = true ↔ Reached moves i x.context) ∧
      (Reached moves i x.context → ∀ more, ∃ x', (w.run more).watch? i = some x' ∧
        x.run.session.Silent x'.run.session ∧ x'.run.session.state = .closed ∧
        x'.run.session.recv = (.ended, x'.run.session))) ∧
    (∀ i j, i ≠ j → ∀ before m after, moves = before ++ .move j m :: after →
      w.watch? i = (start.run (before ++ after)).watch? i) ∧
    (.cancel [] ∈ moves → ∀ i x, w.watch? i = some x → x.run.session.state = .closed) := by
  intro w
  have h : Tracked moves w := tracked_run moves
  refine ⟨fun i x hx => ⟨h.closed i x hx, fun hreached more => ?_⟩, ?_, fun hshutdown i x hx => ?_⟩
  · have hclosed : x.run.session.cancelled = true := (h.closed i x hx).mpr hreached
    obtain ⟨x', hx', -, hsilent⟩ := silent_run hx hclosed more
    exact ⟨x', hx', hsilent, Session.state_of_cancelled hsilent.cancelled, Session.recv_of_cancelled hsilent.cancelled⟩
  · rintro i j hij before m after rfl
    have hagree := (agreeOff_move (start.run before) j m).run after
    have hwith : w = ((start.run before).apply (.move j m)).run after := run_append start before (.move j m :: after)
    rw [hwith, hagree.2 i hij, run_append]
  · have hreached : Reached moves i x.context := .inl ⟨[], hshutdown, List.nil_prefix⟩
    exact Session.state_of_cancelled ((h.closed i x hx).mpr hreached)

/-- A stop closes one of two watches, and the shutdown of the server the other one. -/
example :
    let states (w : Watches (Fin 2)) := [0, 1].map fun i => (w.watch? i).map (·.run.session.state)
    let w := start.run [.spawn 0 default [0], .spawn 1 default [1], .move 0 .stop]
    states w = [some .closed, some .active] ∧ states (w.apply (.cancel [])) = [some .closed, some .closed] :=
  ⟨rfl, rfl⟩

end Watches

end AppGateway
