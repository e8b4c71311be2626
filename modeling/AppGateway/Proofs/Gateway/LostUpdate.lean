import AppGateway.Proofs.Backing.History
import AppGateway.Proofs.Backing.Memory
import AppGateway.Proofs.Gateway.Written
import AppGateway.Proofs.Sample

/-!
# No update is lost

An update makes two calls, a get and then a replacement or a creation, and anything may happen to the store between
them.  A `System` is a store with any number of updates in progress: at each turn one of them makes its next call, or
some other client makes a call of its own.  The `log` tells all calls made so far.

* (progress) `progress_run`: what an update has become follows from the calls that it has made (`Progress`);
* (sent) `sent_version`: an update that found a release sends the version of that release, unless its updater has put
  another in its place;
* (main result) `updates_are_not_lost`.
-/

namespace AppGateway

/-- An update of an application in a namespace. -/
structure UpdateCall where
  ns : String
  name : String
  updater : Option Application → Except Failure Application
  mayCreate : Bool
  ns_ne : ns ≠ ""

/-- A turn of a system: an update makes its next call, or another client makes a call. -/
inductive Turn (ι : Type) where
  | update (i : ι)
  | other (c : BackingCall)

/-- A store with updates in progress, and the calls made so far. -/
structure System (σ ι : Type) where
  store : σ
  running : ι → Exchange (Except Failure (Application × Bool))
  log : List (Event σ ι) := []

namespace UpdateCall

variable {σ : Type} (d : ResourceDefinition) (b : BackingStore σ) (u : UpdateCall)

/-- The program of an update. -/
def program : Exchange (Except Failure (Application × Bool)) := (d.update (some u.ns) u.name u.updater u.mayCreate).run

/-- The name of the release behind the application. -/
def backingName : String := d.names.toBacking u.name

/-- The answer to the get of an update. -/
def read (s : σ) : Except BackingError Record := b.reply (.get u.ns (u.backingName d)) s

/-- What an update has found when it has read in a state: a release, or none in whose place it may create one. -/
def found (s : σ) : Except Failure (Option Release) := d.fetchedForUpdate u.name u.mayCreate (u.read d b s)

/-- The object stored under the name of the release. -/
def stored? (s : σ) : Option Json := b.find? s u.ns (u.backingName d)

/-- The updater keeps the resource version of the application that it is given, or leaves it out. -/
def KeepsVersion : Prop := ∀ c app, u.updater (some c) = .ok app →
  app.metadata.resourceVersion = none ∨ app.metadata.resourceVersion = c.metadata.resourceVersion

/-- An update has replaced the very object that it had read, and nobody has written it in between. -/
def Replaced {ι : Type} (read : Event σ ι) (between : List (Event σ ι)) (write : Event σ ι) : Prop :=
  ∃ j release record, u.stored? d b read.before = some j ∧ u.found d b read.before = .ok (some release) ∧
    write.call = .replace u.ns (u.backingName d) record ∧ u.stored? d b write.before = some j ∧
    ∀ e ∈ between, ¬ b.Writes e.call e.before u.ns (u.backingName d)

/-- An update has created the object while none was stored under its name. -/
def Created {ι : Type} (write : Event σ ι) : Prop :=
  ∃ record, write.call = .create u.ns record ∧ record.name = u.backingName d ∧ u.stored? d b write.before = none

/-- When an update came to write, the object had another version than the one that it had read, or was missing, or was
there although it had found no release in its place. -/
def Overtaken {ι : Type} (read write : Event σ ι) : Prop :=
  (∃ release, u.found d b read.before = .ok (some release) ∧
    (u.stored? d b write.before).map storedVersion ≠ (u.stored? d b read.before).map storedVersion) ∨
  (u.found d b read.before = .ok none ∧ u.stored? d b write.before ≠ none)

private theorem program_eq :
    u.program d = .call (.get u.ns (u.backingName d)) (d.afterFetch u.ns u.name u.updater u.mayCreate) :=
  d.update_run u.ns_ne u.name u.updater u.mayCreate

end UpdateCall

namespace System

variable {σ ι : Type} [DecidableEq ι]

/-- The system in which every update is still to begin. -/
def start (d : ResourceDefinition) (updates : ι → UpdateCall) (s : σ) : System σ ι where
  store := s
  running i := (updates i).program d

/-- The system after a call of an update, or of another client. -/
def turn (b : BackingStore σ) (S : System σ ι) : Turn ι → System σ ι
  | .update i =>
    match S.running i with
    | .done _ => S
    | .call c next => {
      store := b.after c S.store
      running := Function.update S.running i (next (b.reply c S.store))
      log := S.log ++ [⟨some i, c, S.store⟩] }
  | .other c => { S with store := b.after c S.store, log := S.log ++ [⟨none, c, S.store⟩] }

/-- The system after a number of turns. -/
def run (b : BackingStore σ) (S : System σ ι) (turns : List (Turn ι)) : System σ ι := turns.foldl (turn b) S

/-- The calls that an update has made. -/
def callsOf (S : System σ ι) (i : ι) : List (Event σ ι) := S.log.filter (·.actor = some i)

end System

/-- What an update has become, by the calls that it has made. -/
inductive Progress {σ ι : Type} (d : ResourceDefinition) (b : BackingStore σ) (u : UpdateCall) (i : ι) :
    List (Event σ ι) → Exchange (Except Failure (Application × Bool)) → Prop
  /-- It has not begun. -/
  | begun : Progress d b u i [] (u.program d)
  /-- It has read, and goes on with what it has found. -/
  | hasRead (s : σ) : Progress d b u i [⟨some i, .get u.ns (u.backingName d), s⟩]
      (d.afterFetch u.ns u.name u.updater u.mayCreate (u.read d b s))
  /-- It has replaced the release that it had found, or failed to. -/
  | hasReplaced (s s' : σ) (release : Release) (record : Record) (hfound : u.found d b s = .ok (some release))
      (hrecord : d.updatedRecord u.ns u.name u.updater (some release) = .ok record) :
      Progress d b u i
        [⟨some i, .get u.ns (u.backingName d), s⟩, ⟨some i, .replace u.ns (u.backingName d) record, s'⟩]
        (.done ((d.projected .update u.name (b.reply (.replace u.ns (u.backingName d) record) s')).map (·, false)))
  /-- It has created a release where it had found none, or failed to. -/
  | hasCreated (s s' : σ) (record : Record) (hfound : u.found d b s = .ok none)
      (hrecord : d.updatedRecord u.ns u.name u.updater none = .ok record) :
      Progress d b u i [⟨some i, .get u.ns (u.backingName d), s⟩, ⟨some i, .create u.ns record, s'⟩]
        (.done ((d.projected .update u.name (b.reply (.create u.ns record) s')).map (·, true)))

variable {σ ι : Type} {d : ResourceDefinition} {b : BackingStore σ} {u : UpdateCall} {i : ι}
  {issued : σ → String → Prop}

/-! ### Progress -/

/-- After its get an update is over, or it makes one call more. -/
theorem afterFetch_cases (s : σ) :
    (∃ failure, d.afterFetch u.ns u.name u.updater u.mayCreate (u.read d b s) = .done (.error failure)) ∨
      ∃ stored record, u.found d b s = .ok stored ∧
        d.updatedRecord u.ns u.name u.updater stored = .ok record ∧
        d.afterFetch u.ns u.name u.updater u.mayCreate (u.read d b s) = d.storeRecord u.ns u.name stored record := by
  rw [ResourceDefinition.afterFetch, UpdateCall.found]
  cases d.fetchedForUpdate u.name u.mayCreate (u.read d b s) with
  | error failure => exact .inl ⟨failure, rfl⟩
  | ok stored =>
    cases hrecord : d.updatedRecord u.ns u.name u.updater stored with
    | error failure => exact .inl ⟨failure, by simp only [hrecord]⟩
    | ok record => exact .inr ⟨stored, record, rfl, hrecord, by simp only [hrecord]⟩

/-- A call that an update makes keeps the account of its progress. -/
theorem Progress.call {calls : List (Event σ ι)} {c : BackingCall}
    {next : c.Answer → Exchange (Except Failure (Application × Bool))}
    (h : Progress d b u i calls (.call c next)) (s : σ) :
    Progress d b u i (calls ++ [⟨some i, c, s⟩]) (next (b.reply c s)) := by
  generalize hx : Exchange.call c next = x at h
  cases h with
  | begun =>
    rw [UpdateCall.program_eq] at hx
    cases hx
    exact .hasRead s
  | hasRead s₀ =>
    rcases afterFetch_cases (d := d) (b := b) (u := u) s₀ with
      ⟨failure, hdone⟩ | ⟨stored, record, hfound, hrecord, hcall⟩
    · rw [hdone] at hx
      cases hx
    · rw [hcall] at hx
      cases stored with
      | none =>
        cases hx
        exact .hasCreated s₀ s record hfound hrecord
      | some release =>
        cases hx
        exact .hasReplaced s₀ s release record hfound hrecord
  | hasReplaced => cases hx
  | hasCreated => cases hx

/-- Two calls that are all that pass a test stand in the history in this order. -/
theorem split_of_filter_eq_pair {p : Event σ ι → Bool} {log : List (Event σ ι)} {read write : Event σ ι}
    (h : log.filter p = [read, write]) : ∃ A B C, log = A ++ read :: (B ++ write :: C) := by
  obtain ⟨A, rest, rfl, _, _, hrest⟩ := List.filter_eq_cons_iff.mp h
  obtain ⟨B, C, rfl, _, _, _⟩ := List.filter_eq_cons_iff.mp hrest
  exact ⟨A, B, C, rfl⟩

section

variable [DecidableEq ι] {updates : ι → UpdateCall} {S : System σ ι}

private theorem progress_turn (h : ∀ i, Progress d b (updates i) i (S.callsOf i) (S.running i)) (t : Turn ι) (i : ι) :
    Progress d b (updates i) i ((S.turn b t).callsOf i) ((S.turn b t).running i) := by
  cases t with
  | other c => simpa [System.turn, System.callsOf] using h i
  | update k =>
    have hk := h k
    rw [System.turn]
    cases hrun : S.running k with
    | done result => exact h i
    | call c next =>
      rw [hrun] at hk
      by_cases hik : i = k
      · subst hik
        simpa [System.callsOf] using hk.call S.store
      · simpa [System.callsOf, Function.update_of_ne hik, Ne.symm hik] using h i

theorem progress_run (turns : List (Turn ι)) (h : ∀ i, Progress d b (updates i) i (S.callsOf i) (S.running i)) (i : ι) :
    Progress d b (updates i) i ((S.run b turns).callsOf i) ((S.run b turns).running i) := by
  induction turns generalizing S with
  | nil => exact h i
  | cons t turns ih => exact ih (progress_turn h t)

private theorem linked_turn {s : σ} (h : b.Linked s S.log S.store) (t : Turn ι) :
    b.Linked s (S.turn b t).log (S.turn b t).store := by
  cases t with
  | other c => exact BackingStore.linked_snoc h none c
  | update k =>
    rw [System.turn]
    cases S.running k with
    | done result => exact h
    | call c next => exact BackingStore.linked_snoc h (some k) c

/-- The log of a system is a history of its store. -/
private theorem linked_run {s : σ} (turns : List (Turn ι)) (h : b.Linked s S.log S.store) :
    b.Linked s (S.run b turns).log (S.run b turns).store := by
  induction turns generalizing S with
  | nil => exact h
  | cons t turns ih => exact ih (linked_turn h t)

end

/-! ### What is sent -/

/-- What an update sends over a release that it has found carries the version of the object that was stored. -/
theorem sent_version (h : b.Versioned issued) (hu : u.KeepsVersion) {s : σ} (hs : b.Stamped issued s)
    {release : Release} {record : Record} (hfound : u.found d b s = .ok (some release))
    (hrecord : d.updatedRecord u.ns u.name u.updater (some release) = .ok record) :
    ∃ j, u.stored? d b s = some j ∧ storedVersion j ≠ "" ∧
      record.metadata.resourceVersion = some (storedVersion j) := by
  obtain ⟨found, hget, hrelease, _⟩ := d.of_fetched (d.fetched_of_fetchedForUpdate hfound)
  -- The version goes from the object to the record, from there to the release, and into what is sent.
  obtain ⟨j, hj, hne, hread⟩ := hs.version_read h hget
  have hrel : release.metadata.resourceVersion = some (storedVersion j) :=
    (ObjectMeta.text_of_ofJson?_toJson (Release.metadata_of_ofRecord hrelease)).2.2.trans hread
  refine ⟨j, hj, hne, ?_⟩
  rw [ResourceDefinition.updatedRecord, Option.map_some] at hrecord
  obtain ⟨app, happ, hwritten⟩ := Except.of_bind_eq_ok hrecord
  rw [(d.writtenRecord_spec hwritten).2, Option.bind_some, hrel]
  rcases hu _ app happ with hnone | hsame
  · rw [hnone, Option.none_or]
  · rw [hsame]
    show release.metadata.resourceVersion.or _ = _
    rw [hrel, Option.some_or]

/-- What an update sends when it has found no release is named after the release. -/
theorem created_name {record : Record} (hrecord : d.updatedRecord u.ns u.name u.updater none = .ok record) :
    record.name = u.backingName d := by
  rw [ResourceDefinition.updatedRecord, Option.map_none] at hrecord
  obtain ⟨app, _, hwritten⟩ := Except.of_bind_eq_ok hrecord
  exact (d.writtenRecord_spec hwritten).1

/-- A write that the store refuses makes the update fail. -/
theorem projected_of_refused {name : String} {answer : Except BackingError Record} {created : Bool} {e : BackingError}
    (h : answer = .error e) :
    (d.projected .update name answer).map (·, created) = .error (.ofBacking .update name e) := by
  rw [h]
  rfl

private theorem answered_of_projected {name : String} {answer : Except BackingError Record} {created created' : Bool}
    {app : Application} (h : (d.projected .update name answer).map (·, created') = .ok (app, created)) :
    (∃ record, answer = .ok record) ∧ created = created' := by
  obtain ⟨app', hprojected, hpair⟩ := Except.of_map_eq_ok h
  obtain ⟨record, hanswer, _⟩ := Except.of_bind_eq_ok hprojected
  exact ⟨⟨record, Except.of_mapError_eq_ok hanswer⟩, (Prod.mk.inj hpair).2.symm⟩

/-! ### Main result -/

/-- A replacement that succeeds finds the object that was read, which nobody has written since. -/
private theorem replaced_of_success (h : b.Versioned issued) (hu : u.KeepsVersion) {read write : Event σ ι}
    {between : List (Event σ ι)} (hs : b.Stamped issued read.before)
    (hl : b.Linked read.before (read :: between) write.before) {release : Release} {record : Record}
    (hfound : u.found d b read.before = .ok (some release))
    (hrecord : d.updatedRecord u.ns u.name u.updater (some release) = .ok record)
    (hcall : write.call = .replace u.ns (u.backingName d) record)
    (hok : ∃ result, b.reply (.replace u.ns (u.backingName d) record) write.before = .ok result) :
    u.Replaced d b read between write := by
  obtain ⟨j, hj, hne, hsent⟩ := sent_version h hu hs hfound hrecord
  obtain ⟨result, hresult⟩ := hok
  cases hj' : u.stored? d b write.before with
  | none =>
    obtain ⟨⟨e, he⟩, _⟩ := h.replace_missing hj'
    cases hresult.symm.trans he
  | some j' =>
    by_cases hv : storedVersion j = storedVersion j'
    · -- The same version as before means that nobody has written since.
      obtain ⟨hnone, hsame⟩ := BackingStore.version_never_returns h hs hl hj hj' hv.symm
      rw [hsame] at hj'
      exact ⟨j, release, record, hj, hfound, hcall, hj', fun e he => hnone e (List.mem_cons_of_mem _ he)⟩
    · obtain ⟨⟨e, he⟩, _⟩ := h.replace_stale hj' hsent hne hv
      cases hresult.symm.trans he

/-- A replacement of an object that has another version by now, or is missing, is refused. -/
private theorem refused_of_other_version (h : b.Versioned issued) (hu : u.KeepsVersion) {s s' : σ}
    (hs : b.Stamped issued s) {release : Release} {record : Record}
    (hfound : u.found d b s = .ok (some release))
    (hrecord : d.updatedRecord u.ns u.name u.updater (some release) = .ok record)
    (hother : (u.stored? d b s').map storedVersion ≠ (u.stored? d b s).map storedVersion) :
    (∃ e, b.reply (.replace u.ns (u.backingName d) record) s' = .error e) ∧
      u.stored? d b (b.after (.replace u.ns (u.backingName d) record) s') = u.stored? d b s' := by
  obtain ⟨j, hj, hne, hsent⟩ := sent_version h hu hs hfound hrecord
  cases hj' : u.stored? d b s' with
  | none => exact h.replace_missing hj'
  | some j' =>
    have hv : storedVersion j ≠ storedVersion j' := by
      intro he
      rw [hj, hj', Option.map_some, Option.map_some, he] at hother
      exact hother rfl
    exact h.replace_stale hj' hsent hne hv

/-- A creation of an object that is there is refused. -/
theorem refused_of_present (h : b.Versioned issued) {s : σ} {record : Record} {j : Json}
    (hname : record.name = u.backingName d) (hj : u.stored? d b s = some j) :
    (∃ e, b.reply (.create u.ns record) s = .error e) ∧
      u.stored? d b (b.after (.create u.ns record) s) = some j := by
  rw [UpdateCall.stored?, ← hname] at hj ⊢
  exact h.create_present hj

section

variable {s s' : σ} {log : List (Event σ ι)} {calls : List (Event σ ι)} {p : Event σ ι → Bool}

/-- An update that is over with success has read and then written what it had read, or created what was not there. -/
private theorem Progress.of_success (h : b.Versioned issued) (hu : u.KeepsVersion) (hs : b.Stamped issued s)
    (hlinked : b.Linked s log s') (hcalls : log.filter p = calls) {app : Application} {created : Bool}
    (hp : Progress d b u i calls (.done (.ok (app, created)))) :
    ∃ A read B write C, log = A ++ read :: (B ++ write :: C) ∧ calls = [read, write] ∧
      (∃ result, b.reply write.call write.before = .ok result) ∧
      (created = false ∧ u.Replaced d b read B write ∨ created = true ∧ u.Created d b write) := by
  generalize hx : Exchange.done (Except.ok (app, created)) = x at hp
  cases hp with
  | begun =>
    rw [UpdateCall.program_eq] at hx
    cases hx
  | hasRead s₀ =>
    rcases afterFetch_cases (d := d) (b := b) (u := u) s₀ with ⟨failure, hfail⟩ | ⟨stored, record, _, _, hcall⟩
    · rw [hfail] at hx
      cases hx
    · rw [hcall] at hx
      cases stored <;> cases hx
  | hasReplaced s₀ s₁ release record hfound hrecord =>
    obtain ⟨A, B, C, rfl⟩ := split_of_filter_eq_pair hcalls
    obtain ⟨hok, rfl⟩ := answered_of_projected (Exchange.done.inj hx).symm
    refine ⟨A, _, B, _, C, rfl, rfl, hok, .inl ⟨rfl, ?_⟩⟩
    exact replaced_of_success h hu (hs.found h hlinked) (BackingStore.linked_between hlinked) hfound hrecord rfl hok
  | hasCreated s₀ s₁ record hfound hrecord =>
    obtain ⟨A, B, C, rfl⟩ := split_of_filter_eq_pair hcalls
    obtain ⟨hok, rfl⟩ := answered_of_projected (Exchange.done.inj hx).symm
    have hname := created_name hrecord
    refine ⟨A, _, B, _, C, rfl, rfl, hok, .inr ⟨rfl, record, rfl, hname, ?_⟩⟩
    -- Had there been an object, the store would have refused to create it.
    cases hj : u.stored? d b s₁ with
    | none => rfl
    | some j =>
      obtain ⟨result, hresult⟩ := hok
      obtain ⟨⟨e, he⟩, _⟩ := refused_of_present h hname hj
      cases hresult.symm.trans he

/-- An update that was overtaken is refused by the store, and has failed for that reason. -/
private theorem Progress.of_overtaken (h : b.Versioned issued) (hu : u.KeepsVersion) {read write : Event σ ι}
    {x : Exchange (Except Failure (Application × Bool))} (hread : b.Stamped issued read.before)
    (hp : Progress d b u i [read, write] x) (hover : u.Overtaken d b read write) :
    (∃ e, b.reply write.call write.before = .error e ∧ x = .done (.error (.ofBacking .update u.name e))) ∧
      u.stored? d b (b.after write.call write.before) = u.stored? d b write.before := by
  cases hp with
  | hasReplaced s₀ s₁ release record hfound hrecord =>
    rcases hover with ⟨_, _, hother⟩ | ⟨hnone, _⟩
    · obtain ⟨⟨e, he⟩, hkept⟩ := refused_of_other_version h hu hread hfound hrecord hother
      exact ⟨⟨e, he, congrArg Exchange.done (projected_of_refused he)⟩, hkept⟩
    · cases hfound.symm.trans hnone
  | hasCreated s₀ s₁ record hfound hrecord =>
    rcases hover with ⟨_, hsome, _⟩ | ⟨_, hpresent⟩
    · cases hfound.symm.trans hsome
    · obtain ⟨j, hj⟩ := Option.ne_none_iff_exists'.mp hpresent
      obtain ⟨⟨e, he⟩, hkept⟩ := refused_of_present h (created_name hrecord) hj
      exact ⟨⟨e, he, congrArg Exchange.done (projected_of_refused he)⟩, hkept.trans hj.symm⟩

end

/-- No update is lost.  An update that succeeds has replaced the very object that it had read, which nobody had written
in between, or has created the object while there was none; an update that comes too late is refused by the store, fails
for that reason and changes nothing. -/
theorem updates_are_not_lost [DecidableEq ι] (h : b.Versioned issued) {s : σ} (hs : b.Stamped issued s)
    (updates : ι → UpdateCall) (hu : ∀ i, (updates i).KeepsVersion) (turns : List (Turn ι)) :
    let S := (System.start d updates s).run b turns
    (∀ i app created, S.running i = .done (.ok (app, created)) →
      ∃ A read B write C, S.log = A ++ read :: (B ++ write :: C) ∧ S.callsOf i = [read, write] ∧
        (∃ result, b.reply write.call write.before = .ok result) ∧
        (created = false ∧ (updates i).Replaced d b read B write ∨ created = true ∧ (updates i).Created d b write)) ∧
    (∀ i read write, S.callsOf i = [read, write] → (updates i).Overtaken d b read write →
      (∃ e, b.reply write.call write.before = .error e ∧
        S.running i = .done (.error (.ofBacking .update (updates i).name e))) ∧
      (updates i).stored? d b (b.after write.call write.before) = (updates i).stored? d b write.before) := by
  intro S
  have hlinked : b.Linked s S.log S.store := linked_run turns rfl
  have hprogress : ∀ i, Progress d b (updates i) i (S.callsOf i) (S.running i) :=
    progress_run turns fun i => .begun
  refine ⟨fun i app created hdone => ?_, fun i read write hcalls hover => ?_⟩
  · have hi := hprogress i
    rw [hdone] at hi
    exact hi.of_success h (hu i) hs hlinked rfl
  · have hi := hprogress i
    rw [hcalls] at hi
    obtain ⟨A, B, C, hlog⟩ := split_of_filter_eq_pair hcalls
    rw [hlog] at hlinked
    exact hi.of_overtaken h (hu i) (hs.found h hlinked) hover

/-- An update of the version of the sample application. -/
def sampleUpdate (version : String) : UpdateCall where
  ns := "tenant"
  name := "shop"
  updater current := .ok { current.getD sampleApp with appVersion := version }
  mayCreate := false
  ns_ne := by decide

/-- A store that holds the release of the sample application. -/
def sampleStore : {s : MemoryStore // s.Sound} :=
  ⟨.single "tenant" "web-shop" (sampleType.toRelease sampleApp none).toStored.toJson,
    MemoryStore.sound_single _ _ (MemoryStore.tidy_toJson _)⟩

/-- Two updates that both read before either of them writes. -/
def sampleRun : System {s : MemoryStore // s.Sound} Bool :=
  (System.start sampleType (fun i => sampleUpdate (if i then "2" else "3")) sampleStore).run MemoryStore.backing
    [.update true, .update false, .update true, .update false]

/-- Of two updates that have read the same release, the second to write is refused. -/
theorem second_writer_is_refused :
    (∃ app, sampleRun.running true = .done (.ok (app, false))) ∧
      ∃ e, sampleRun.running false = .done (.error (.ofBacking .update "shop" e)) := by
  have hkeeps (i : Bool) : (sampleUpdate (if i then "2" else "3")).KeepsVersion := by
    rintro c _ ⟨⟩
    exact .inr rfl
  have hstamped : MemoryStore.backing.Stamped MemoryStore.Issued sampleStore :=
    MemoryStore.stamped_single "tenant" "web-shop" (MemoryStore.tidy_toJson _)
  -- The second update has read the version that was there first, and finds that of the other update.
  have hversions : (sampleRun.callsOf false).map (fun e =>
      ((sampleUpdate "3").stored? sampleType MemoryStore.backing e.before).map storedVersion) =
      [some "100", some "101"] := by rfl
  obtain ⟨read, write, hcalls, release, hfound⟩ : ∃ read write, sampleRun.callsOf false = [read, write] ∧
      ∃ release, (sampleUpdate "3").found sampleType MemoryStore.backing read.before = .ok (some release) :=
    ⟨_, _, rfl, _, rfl⟩
  rw [hcalls] at hversions
  simp only [List.map_cons, List.map_nil, List.cons.injEq, and_true] at hversions
  have hother : (sampleUpdate "3").Overtaken sampleType MemoryStore.backing read write := by
    refine .inl ⟨release, hfound, ?_⟩
    rw [hversions.1, hversions.2]
    decide
  have h := updates_are_not_lost (d := sampleType) MemoryStore.versioned_backing hstamped
    (fun i => sampleUpdate (if i then "2" else "3")) hkeeps [.update true, .update false, .update true, .update false]
  obtain ⟨⟨e, _, he⟩, _⟩ := h.2 false read write hcalls hother
  exact ⟨⟨_, rfl⟩, e, he⟩

end AppGateway
