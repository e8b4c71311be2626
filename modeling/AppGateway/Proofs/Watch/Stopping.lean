import AppGateway.Proofs.Gateway.Program
import AppGateway.Proofs.Sample
import AppGateway.Proofs.Watch.Closing

/-!
# What a stop reports

A stop is made in two steps: it sets the flag of the session and learns whether it was set before, and if it was not, it
cancels the session.  Between the two steps of one stop, other stops may make theirs, and so may the caller, who cancels
the session without setting the flag.  A `StopRun` is a watch with any number of stops in progress.

* (steps) `Session.stop_eq`: the two steps, one right after the other, are a stop;
* (step) `Account.apply`: every move keeps the account of who was first to set the flag and who has cancelled the session;
* (run) `account_run`;
* (main result) `stop_tells_first`;
* `cancelled_session_is_stopped`: a stop that reports to have stopped a session that was cancelled already.
-/

namespace AppGateway

namespace Session

/-- The first step of a stop: sets the flag, and tells whether this is the first stop. -/
def requestStop (s : Session) : Bool × Session := (!s.stopRequested, { s with stopRequested := true })

/-- The second step of a stop: the first stop cancels the session. -/
def finishStop (s : Session) (first : Bool) : Session := if first then s.cancel else s

theorem stop_eq (s : Session) : s.stop = (s.requestStop.1, s.requestStop.2.finishStop s.requestStop.1) := by
  unfold stop requestStop
  cases hflag : s.stopRequested with
  | false => rfl
  | true =>
    have hset : { s with stopRequested := true } = s := by rw [← hflag]
    simp [finishStop, hset]

end Session

/-- How far a stop has come. -/
inductive StopCall where
  /-- The flag is set. -/
  | begun (first : Bool)
  | returned (answer : Bool)
deriving DecidableEq

/-- Whether a stop was the one that set the flag. -/
def StopCall.isFirst : StopCall → Bool
  | .begun first => first
  | .returned answer => answer

/-- A move of a watch that any number of callers stop. -/
inductive StopMove (ι : Type) where
  /-- A stop makes its first step; one that was begun before is left as it is. -/
  | enter (i : ι)
  /-- A stop that has begun makes its second step, and returns. -/
  | leave (i : ι)
  /-- The caller of the watch cancels it. -/
  | cancel
  /-- The consumer goes away, after a stop of its own. -/
  | letGo
  /-- Any move that closes nothing. -/
  | other (m : WatchMove) (h : m.closes = false)

/-- The stop that makes its first step by a move. -/
def StopMove.entered? {ι : Type} : StopMove ι → Option ι
  | .enter i => some i
  | _ => none

/-- A watch and the stops that were begun. -/
structure StopRun (ι : Type) where
  watch : WatchRun
  call? : ι → Option StopCall := fun _ => none

namespace StopRun

variable {ι : Type} [DecidableEq ι]

/-- A watch that nobody stops yet. -/
def start (d : ResourceDefinition) : StopRun ι where
  watch := .start d

/-- A run after a move. -/
def apply (r : StopRun ι) : StopMove ι → StopRun ι
  | .enter i =>
    match r.call? i with
    | none => {
        watch := { r.watch with session := r.watch.session.requestStop.2 }
        call? := Function.update r.call? i (some (.begun r.watch.session.requestStop.1)) }
    | some _ => r
  | .leave i =>
    match r.call? i with
    | some (.begun first) => {
        watch := { r.watch with session := r.watch.session.finishStop first }
        call? := Function.update r.call? i (some (.returned first)) }
    | _ => r
  | .cancel => { r with watch := r.watch.apply .cancel }
  | .letGo => { r with watch := { r.watch with
      session := { r.watch.session with dropped := true, slot := none }
      waiting := false
      discarded := r.watch.discarded.or r.watch.session.slot } }
  | .other m _ => { r with watch := r.watch.apply m }

/-- A run after a number of moves. -/
def run (r : StopRun ι) (moves : List (StopMove ι)) : StopRun ι := moves.foldl apply r

variable {d : ResourceDefinition} {r : StopRun ι} {i j : ι} {moves : List (StopMove ι)}

private theorem apply_enter (h : r.call? i = none) :
    r.apply (.enter i) = {
      watch := { r.watch with session := r.watch.session.requestStop.2 }
      call? := Function.update r.call? i (some (.begun r.watch.session.requestStop.1)) } := by
  simp [apply, h]

private theorem apply_leave {first : Bool} (h : r.call? i = some (.begun first)) :
    r.apply (.leave i) = {
      watch := { r.watch with session := r.watch.session.finishStop first }
      call? := Function.update r.call? i (some (.returned first)) } := by
  simp [apply, h]

/-- A stop that nothing comes between is the stop of a session, and returns what it tells. -/
private theorem run_stop (h : r.call? i = none) :
    r.run [.enter i, .leave i] = {
      watch := r.watch.apply .stop
      call? := Function.update r.call? i (some (.returned r.watch.session.stop.1)) } := by
  simp [run, apply, h, WatchRun.apply, Session.stop_eq]

/-- When the consumer goes away, its watch is stopped and let go of. -/
theorem run_drop (h : r.call? i = none) :
    (r.run [.enter i, .leave i, .letGo]).watch = r.watch.apply .drop := by
  have hslot : r.watch.session.stop.2.slot = r.watch.session.slot := by
    unfold Session.stop
    split <;> rfl
  show ((r.run [.enter i, .leave i]).apply .letGo).watch = _
  rw [run_stop h]
  simp [apply, WatchRun.apply, Session.drop, hslot]

/-- Whether a call has returned `true` is not changed by another one that has not. -/
private theorem returned_update_iff {call? : ι → Option StopCall} {c : StopCall}
    (hold : call? i ≠ some (.returned true)) (hnew : c ≠ .returned true) :
    (∃ j, Function.update call? i (some c) j = some (.returned true)) ↔ ∃ j, call? j = some (.returned true) := by
  refine exists_congr fun j => ?_
  by_cases hj : j = i
  · subst hj
    simp [hold, hnew]
  · rw [Function.update_of_ne hj]

private theorem run_append (r : StopRun ι) (moves more : List (StopMove ι)) : r.run (moves ++ more) =
    (r.run moves).run more :=
  List.foldl_append

/-! ### The account of a run -/

/-- The stop that has begun first. -/
def firstStop (moves : List (StopMove ι)) : Option ι := moves.findSome? StopMove.entered?

omit [DecidableEq ι] in
private theorem firstStop_snoc (moves : List (StopMove ι)) (m : StopMove ι) :
    firstStop (moves ++ [m]) = (firstStop moves).or m.entered? := by
  rw [firstStop, List.findSome?_append, firstStop]
  cases m <;> rfl

omit [DecidableEq ι] in
private theorem firstStop_snoc_of_none {m : StopMove ι} (hm : m.entered? = none) :
    firstStop (moves ++ [m]) = firstStop moves := by
  rw [firstStop_snoc, hm, Option.or_none]

omit [DecidableEq ι] in
private theorem firstStop_eq_none_iff : firstStop moves = none ↔ ∀ i, .enter i ∉ moves := by
  rw [firstStop, List.findSome?_eq_none_iff]
  constructor
  · intro h i hi
    cases h _ hi
  · intro h m hm
    cases m with
    | enter i => exact absurd hm (h i)
    | _ => rfl

omit [DecidableEq ι] in
private theorem mem_of_firstStop (h : firstStop moves = some i) : .enter i ∈ moves := by
  obtain ⟨m, hm, hentered⟩ := List.exists_of_findSome?_eq_some h
  cases m with
  | enter j =>
    cases hentered
    exact hm
  | _ => cases hentered

/-- Who was first to set the flag, and who has cancelled the session. -/
structure Account (moves : List (StopMove ι)) (r : StopRun ι) : Prop where
  begun : ∀ i, (r.call? i).isSome = true ↔ .enter i ∈ moves
  flag : r.watch.session.stopRequested = (firstStop moves).isSome
  first : ∀ i c, r.call? i = some c → (c.isFirst = true ↔ firstStop moves = some i)
  cancelled : r.watch.session.cancelled = true ↔ .cancel ∈ moves ∨ ∃ i, r.call? i = some (.returned true)

omit [DecidableEq ι] in
private theorem account_start (d : ResourceDefinition) : Account [] (start d : StopRun ι) where
  begun i := by simp [start]
  flag := rfl
  first i c hc := by cases hc
  cancelled := by simp [start, WatchRun.start]

omit [DecidableEq ι] in
private theorem enter_mem_snoc : StopMove.enter j ∈ moves ++ [.enter i] ↔ .enter j ∈ moves ∨ j = i := by
  simp

/-- A stop that was begun before is not begun again. -/
private theorem Account.enter_again (h : Account moves r) {c : StopCall} (hcall : r.call? i = some c) :
    Account (moves ++ [.enter i]) (r.apply (.enter i)) := by
  have hmem : .enter i ∈ moves := (h.begun i).mp (by rw [hcall, Option.isSome_some])
  have hfirst : firstStop (moves ++ [.enter i]) = firstStop moves := by
    rw [firstStop_snoc]
    cases hnone : firstStop moves with
    | none => exact absurd hmem (firstStop_eq_none_iff.mp hnone i)
    | some j => rfl
  have hsame : r.apply (.enter i) = r := by simp [StopRun.apply, hcall]
  rw [hsame]
  refine ⟨fun j => ?_, hfirst ▸ h.flag, hfirst ▸ h.first, by simpa using h.cancelled⟩
  rw [h.begun j, enter_mem_snoc]
  exact ⟨.inl, fun hj => hj.elim id fun hij => hij ▸ hmem⟩

/-- A stop that begins is the first one exactly if it finds the flag unset. -/
private theorem Account.enter_fresh (h : Account moves r) (hcall : r.call? i = none) :
    Account (moves ++ [.enter i]) (r.apply (.enter i)) := by
  have hfresh : firstStop moves ≠ some i := by
    intro hi
    have hsome := (h.begun i).mpr (mem_of_firstStop hi)
    rw [hcall] at hsome
    cases hsome
  have hset : firstStop (moves ++ [.enter i]) = (firstStop moves).or (some i) := firstStop_snoc _ _
  rw [apply_enter hcall]
  refine ⟨fun j => ?_, ?_, fun j c hc => ?_, ?_⟩
  · rw [enter_mem_snoc]
    by_cases hj : j = i
    · simp [hj]
    · simp [hj, h.begun j]
  · simp [hset, Session.requestStop]
  · dsimp only at hc
    rw [hset]
    by_cases hj : j = i
    · subst hj
      simp only [Function.update_self, Option.some.injEq] at hc
      subst hc
      simp only [StopCall.isFirst, Session.requestStop, h.flag]
      cases hbefore : firstStop moves with
      | none => simp
      | some k =>
        have hk : k ≠ j := fun hkj => hfresh (hkj ▸ hbefore)
        simp [hk]
    · rw [Function.update_of_ne hj] at hc
      rw [h.first j c hc]
      cases firstStop moves <;> simp [Ne.symm hj]
  · show r.watch.session.cancelled = true ↔ _
    rw [h.cancelled, returned_update_iff (by simp [hcall]) (by simp)]
    simp

private theorem Account.enter (h : Account moves r) (i : ι) : Account (moves ++ [.enter i]) (r.apply (.enter i)) := by
  cases hcall : r.call? i with
  | none => exact h.enter_fresh hcall
  | some c => exact h.enter_again hcall

omit [DecidableEq ι] in
/-- A move that begins no stop and cancels nothing leaves the account as it is. -/
private theorem Account.keep (h : Account moves r) {m : StopMove ι} {r' : StopRun ι} (hm : m.entered? = none)
    (hmove : m ≠ .cancel) (hcall : r'.call? = r.call?)
    (hflag : r'.watch.session.stopRequested = r.watch.session.stopRequested)
    (hcancelled : r'.watch.session.cancelled = r.watch.session.cancelled) : Account (moves ++ [m]) r' where
  begun i := by
    have henter : m ≠ .enter i := by
      rintro rfl
      cases hm
    simp [hcall, h.begun i, Ne.symm henter]
  flag := by rw [hflag, h.flag, firstStop_snoc_of_none hm]
  first := by
    rw [hcall, firstStop_snoc_of_none hm]
    exact h.first
  cancelled := by
    rw [hcancelled, hcall, h.cancelled]
    simp [Ne.symm hmove]

/-- A stop that has returned does nothing more, and one that was not the first has nothing to cancel. -/
private theorem Account.leave (h : Account moves r) (i : ι) : Account (moves ++ [.leave i]) (r.apply (.leave i)) := by
  have hsame (hr : r.apply (.leave i) = r) : Account (moves ++ [.leave i]) (r.apply (.leave i)) :=
    h.keep rfl (by simp) (by rw [hr]) (by rw [hr]) (by rw [hr])
  cases hcall : r.call? i with
  | none => exact hsame (by simp [StopRun.apply, hcall])
  | some c =>
    cases c with
    | returned answer => exact hsame (by simp [StopRun.apply, hcall])
    | begun first =>
      rw [apply_leave hcall]
      refine ⟨fun j => ?_, ?_, fun j c hc => ?_, ?_⟩
      · by_cases hj : j = i
        · simp [hj, ← h.begun i, hcall]
        · simp [hj, h.begun j]
      · rw [firstStop_snoc_of_none rfl, ← h.flag]
        cases first <;> rfl
      · dsimp only at hc
        rw [firstStop_snoc_of_none rfl]
        by_cases hj : j = i
        · subst hj
          simp only [Function.update_self, Option.some.injEq] at hc
          subst hc
          exact (h.first j _ hcall :)
        · rw [Function.update_of_ne hj] at hc
          exact h.first j c hc
      · cases first with
        | true => exact ⟨fun _ => .inr ⟨i, by simp⟩, fun _ => rfl⟩
        | false =>
          show r.watch.session.cancelled = true ↔ _
          rw [h.cancelled, returned_update_iff (by simp [hcall]) (by simp)]
          simp

theorem Account.apply (h : Account moves r) (m : StopMove ι) : Account (moves ++ [m]) (r.apply m) := by
  cases m with
  | enter i => exact h.enter i
  | leave i => exact h.leave i
  | cancel =>
    have hfirst : firstStop (moves ++ [.cancel]) = firstStop moves := firstStop_snoc_of_none rfl
    refine ⟨fun j => by simpa [StopRun.apply] using h.begun j, hfirst ▸ h.flag, hfirst ▸ h.first, ?_⟩
    simp [StopRun.apply, WatchRun.apply, Session.cancel]
  | letGo => exact h.keep rfl (by simp) rfl rfl rfl
  | other m hm =>
    have hflags := (WatchRun.advances_apply r.watch hm).flags
    exact h.keep rfl (by simp) rfl hflags.2 hflags.1

theorem account_run (d : ResourceDefinition) (moves : List (StopMove ι)) :
    Account moves ((start d).run moves) := by
  induction moves using List.reverseRecOn with
  | nil => exact account_start d
  | append_singleton moves m ih =>
    rw [run_append]
    exact ih.apply m

/-- Of all the stops of a watch, at most one reports to have stopped it, and this is the one that has begun first.  It
has done so exactly if the caller had not cancelled the watch before: else the session was cancelled already. -/
theorem stop_tells_first (d : ResourceDefinition) (moves : List (StopMove ι)) :
    (∀ i j, ((start d).run moves).call? i = some (.returned true) →
      ((start d).run moves).call? j = some (.returned true) → i = j) ∧
    ∀ i before after, moves = before ++ .enter i :: after → .enter i ∉ before →
      ∀ answer, ((start d).run moves).call? i = some (.returned answer) →
        (answer = true ↔ ∀ j, .enter j ∉ before) ∧
        (answer = true → (((start d).run before).watch.session.cancelled = true ↔ .cancel ∈ before)) := by
  have h : Account moves ((start d).run moves) := account_run d moves
  refine ⟨fun i j hi hj => ?_, ?_⟩
  · have hfirst : firstStop moves = some i := (h.first i _ hi).mp rfl
    exact Option.some.inj (hfirst.symm.trans ((h.first j _ hj).mp rfl))
  · rintro i before after rfl hfresh answer hanswer
    have hfirst : answer = true ↔ ∀ j, .enter j ∉ before := by
      have hlead : firstStop (before ++ .enter i :: after) = (firstStop before).or (some i) := by
        rw [firstStop, List.findSome?_append]
        rfl
      rw [← firstStop_eq_none_iff]
      refine (h.first i _ hanswer).trans ?_
      rw [hlead]
      cases hbefore : firstStop before with
      | none => simp
      | some j =>
        have hji : j ≠ i := by
          rintro rfl
          exact hfresh (mem_of_firstStop hbefore)
        simp [hji]
    refine ⟨hfirst, fun htrue => ?_⟩
    have hbefore : Account before ((start d).run before) := account_run d before
    rw [hbefore.cancelled, or_iff_left]
    -- No stop had begun, and so none had returned.
    rintro ⟨j, hj⟩
    exact hfirst.mp htrue j ((hbefore.begun j).mp (by rw [hj, Option.isSome_some]))

/-- The caller cancels a watch, and a stop that begins after this reports to have stopped it. -/
theorem cancelled_session_is_stopped :
    let before : List (StopMove Unit) := [.cancel]
    ((start sampleType).run before).watch.session.cancelled = true ∧
      ((start sampleType).run (before ++ [.enter (), .leave ()])).call? () = some (.returned true) :=
  ⟨rfl, rfl⟩

end StopRun

end AppGateway
