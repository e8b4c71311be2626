import AppGateway.Proofs.Gateway.Catalogue
import AppGateway.Proofs.Gateway.Repeated

/-!
# Two ways to create an application

An application that is not there is created by a creation, and by an update that may create.  The update reads first
and addresses the application by the name that it was asked for, the creation by the name that the application has.

* (sending) `create_of_fit`, `update_of_fit`: both send the same record, when the application agrees with the request,
  and `create_of_unfit`, `update_of_unfit`: both send nothing when it does not;
* (answers) `projected_alike`: what was stored is shown in the same way, or both fail with the same code;
* (main result) `created_alike`.
-/

namespace AppGateway

namespace BackingCall

/-- The record that a call asks to be created, and the namespace that it asks for. -/
def creation? : BackingCall → Option (String × Record)
  | .create ns record => some (ns, record)
  | _ => none

end BackingCall

namespace BackingStore

variable {σ : Type} (b : BackingStore σ)

/-- A store whose reads fail only for records that are missing, and whose creations fail only for records that are
present.  What is refused leaves no trace, and neither does a read. -/
structure Creating : Prop where
  get_missing : ∀ {s ns name}, b.find? s ns name = none →
    ∃ e : ErrorResponse, e.code = 404 ∧ b.reply (.get ns name) s = .error (.api e)
  get_present : ∀ {s ns name j}, b.find? s ns name = some j →
    b.reply (.get ns name) s = MemoryStore.asRecord (.ok j)
  contents_after_get : ∀ s ns name, b.contents (b.after (.get ns name) s) = b.contents s
  reply_after_get : ∀ s ns name c, b.reply c (b.after (.get ns name) s) = b.reply c s
  after_after_get : ∀ s ns name c, b.contents (b.after c (b.after (.get ns name) s)) = b.contents (b.after c s)
  create_present : ∀ {s ns record j}, b.find? s ns record.name = some j →
    (∃ e : ErrorResponse, e.code = 409 ∧ b.reply (.create ns record) s = .error (.api e)) ∧
      b.contents (b.after (.create ns record) s) = b.contents s
  create_absent : ∀ {s ns record}, b.find? s ns record.name = none →
    ∃ j, b.reply (.create ns record) s = MemoryStore.asRecord (.ok j)

end BackingStore

/-- The store in memory creates as it should. -/
theorem MemoryStore.creating_backing : backing.Creating where
  get_missing h := by
    obtain ⟨⟨e, hcode, hreply⟩, -⟩ := faithful_backing.get_missing h
    exact ⟨e, hcode, hreply⟩
  get_present h := (faithful_backing.get_present h).1
  contents_after_get _ _ _ := rfl
  reply_after_get _ _ _ _ := rfl
  after_after_get _ _ _ _ := rfl
  create_present h := by
    rw [BackingStore.reply, BackingStore.after, backing_create_of_present h]
    exact ⟨⟨_, rfl, rfl⟩, rfl⟩
  create_absent h := by
    obtain ⟨v, -, -, -, hreply, -⟩ := faithful_backing.create_absent h
    exact ⟨_, hreply⟩

/-- An application names the namespace of a request, or none. -/
def Application.Fits (app : Application) (ns : String) : Prop :=
  app.metadata.ns.getD "" = "" ∨ app.metadata.ns.getD "" = ns

private theorem Application.addressedName?_of_fits {app : Application} {n ns : String} (hname : app.name = n)
    (hn : n ≠ "")
    (h : app.Fits ns) : app.addressedName? none ns = some n ∧ app.addressedName? (some n) ns = some n := by
  have hns : app.metadata.ns.getD "" = "" ∨ app.metadata.ns.getD "" = ns := h
  subst hname
  simp [addressedName?, hn, hns]

private theorem Application.addressedName?_of_unfit {app : Application} {n ns : String} (h : ¬ app.Fits ns) :
    app.addressedName? none ns = none ∧ app.addressedName? (some n) ns = none := by
  have hns : ¬ (app.metadata.ns.getD "" = "" ∨ app.metadata.ns.getD "" = ns) := h
  simp [addressedName?, hns]

namespace ResourceDefinition

variable {d : ResourceDefinition} {app : Application} {ns n : String}

/-! ### Sending -/

/-- An application whose name fits is sent to be created. -/
theorem create_of_fit (hns : ns ≠ "") (h : app.addressedName? none ns = some n) :
    (d.create (some ns) app).run =
      .call (.create ns (sent d ns n app none)) fun answer => .done (d.projected .create n answer) := by
  rw [d.create_run hns, d.createdRecord_of_some h]
  rfl

/-- One whose name does not fit is refused before anything is asked for. -/
theorem create_of_unfit (hns : ns ≠ "") (h : app.addressedName? none ns = none) :
    ∃ message, (d.create (some ns) app).run = .done (.error (.badRequest message)) := by
  obtain ⟨message, hrecord⟩ := d.createdRecord_of_none h
  exact ⟨message, by rw [d.create_run hns, hrecord]⟩

/-- An application that is put where there is none is sent to be created. -/
theorem update_of_fit (h : app.addressedName? (some n) ns = some n) {answer : Except BackingError Record}
    (hnone : d.fetchedForUpdate n true answer = .ok none) :
    d.afterFetch ns n (fun _ => .ok app) true answer =
      .call (.create ns (sent d ns n app none)) fun answer => .done ((d.projected .update n answer).map (·, true)) := by
  have hrereads : (d.toRelease (app.addressedAs n ns) none).settled.Rereads :=
    d.toRelease_settled_rereads (app.addressedAs n ns) (by simp)
  have hrecord : d.updatedRecord ns n (fun _ => .ok app) none = .ok (sent d ns n app none) := by
    rw [updatedRecord, Except.ok_bind, d.writtenRecord_of_some h, writeRelease_of_settled hrereads, sent]
  rw [afterFetch, hnone]
  simp only [hrecord]
  rfl

/-- One that has another name, or none that fits, is refused. -/
theorem update_of_unfit (h : app.addressedName? (some n) ns = none) {answer : Except BackingError Record}
    (hnone : d.fetchedForUpdate n true answer = .ok none) :
    ∃ message, d.afterFetch ns n (fun _ => .ok app) true answer = .done (.error (.badRequest message)) := by
  obtain ⟨message, hrecord⟩ := d.writtenRecord_of_none none h
  have hrecord : d.updatedRecord ns n (fun _ => .ok app) none = .error (.badRequest message) := by
    rw [updatedRecord, Except.ok_bind, hrecord]
  refine ⟨message, ?_⟩
  rw [afterFetch, hnone]
  simp only [hrecord]

/-! ### Answers -/

/-- An answer is shown in the same way by two operations, or it makes both fail with the same code. -/
theorem projected_alike (d : ResourceDefinition) (first second : Operation) (n : String)
    (answer : Except BackingError Record) :
    (∃ shown, d.projected first n answer = .ok shown ∧ d.projected second n answer = .ok shown) ∨
      ∃ f f', d.projected first n answer = .error f ∧ d.projected second n answer = .error f' ∧
        f.code = f'.code := by
  cases answer with
  | error e =>
    refine .inr ⟨.ofBacking first n e, .ofBacking second n e, rfl, rfl, ?_⟩
    cases e with
    | api response =>
      rw [Failure.ofBacking, Failure.ofBacking]
      split <;> rfl
    | _ => rfl
  | ok record =>
    have hproject (operation : Operation) : d.projected operation n (.ok record) = d.project operation n record := rfl
    simp only [hproject, project, readRelease]
    cases Release.ofRecord record with
    | ok r => exact .inl ⟨d.toApplication r, rfl, rfl⟩
    | error fault => exact .inr ⟨_, _, rfl, rfl, rfl⟩

variable {σ : Type} {b : BackingStore σ} {s : σ}

private theorem code_of_projected {operation : Operation} {answer : Except BackingError Record} {f : Failure}
    (hanswer : ∀ response, answer = .error (.api response) → 400 ≤ response.code)
    (hf : d.projected operation n answer = .error f) : 400 ≤ f.code := by
  cases answer with
  | error e =>
    cases hf
    exact Failure.code_ofBacking fun response he => hanswer response (congrArg Except.error he)
  | ok record => exact (d.own_project operation n record).code hf

/-! ### Nothing to be updated -/

/-- There is no release of the type under the name that an application has in the store: no record, or a release of
another type. -/
def Vacant (d : ResourceDefinition) (b : BackingStore σ) (s : σ) (ns n : String) : Prop :=
  ∀ j, b.find? s ns (d.names.toBacking n) = some j →
    ∃ record r, Record.ofJson? j = some record ∧ Release.ofRecord record = .ok r ∧ d.inScope r = false

private theorem fetchedForUpdate_of_vacant (h : b.Creating) (hvacant : d.Vacant b s ns n) :
    d.fetchedForUpdate n true (b.reply (.get ns (d.names.toBacking n)) s) = .ok none := by
  have hmissing : ∃ name e, d.fetched .update n (b.reply (.get ns (d.names.toBacking n)) s) =
      .error (.backingNotFound name e) := by
    cases hfind : b.find? s ns (d.names.toBacking n) with
    | none =>
      obtain ⟨e, hcode, hreply⟩ := h.get_missing hfind
      exact ⟨n, e, by rw [hreply, d.fetched_of_missing hcode]⟩
    | some j =>
      obtain ⟨record, r, hrecord, hr, hscope⟩ := hvacant j hfind
      rw [h.get_present hfind, MemoryStore.asRecord_ok, hrecord]
      exact ⟨_, _, d.fetched_of_out_of_scope hr hscope⟩
  obtain ⟨name, e, hfetched⟩ := hmissing
  rw [fetchedForUpdate, hfetched]
  rfl

/-- In a namespace with a release of another type and nothing else, no name has a release of the type. -/
theorem vacant_holding {r : Release} (h : r.Rereads) (hscope : d.inScope r = false) (n : String) :
    d.Vacant MemoryStore.backing (MemoryStore.holding ns r) ns n := by
  intro j hj
  obtain ⟨record, hread, -⟩ := MemoryStore.legible_holding h _ j hj
  have hrecord : MemoryStore.backing.record? (MemoryStore.holding ns r) ns (d.names.toBacking n) = some record := by
    rw [BackingStore.record?, hj, Option.bind_some, hread]
  rw [MemoryStore.record?_holding h, Option.ite_none_right_eq_some] at hrecord
  obtain ⟨-, hrecord⟩ := hrecord
  cases hrecord
  refine ⟨_, _, hread, Release.ofRecord_toStored (h.versioned "100"), ?_⟩
  rw [d.inScope_versioned, hscope]

/-- A creation and an update come to the same: they ask for the same records to be created, leave the same behind, and
show the same application as created or fail with the same code, which is that of an error. -/
structure CreatedAlike (b : BackingStore σ) (s : σ) (posted : Exchange (Except Failure Application))
    (put : Exchange (Except Failure (Application × Bool))) : Prop where
  sent : (put.calls b.answer s).filterMap BackingCall.creation? =
    (posted.calls b.answer s).filterMap BackingCall.creation?
  contents : b.contents (put.run b.answer s).2 = b.contents (posted.run b.answer s).2
  result : (∃ shown, (posted.run b.answer s).1 = .ok shown ∧ (put.run b.answer s).1 = .ok (shown, true)) ∨
    ∃ f f', (posted.run b.answer s).1 = .error f ∧ (put.run b.answer s).1 = .error f' ∧ f.code = f'.code ∧
      400 ≤ f.code

private theorem code_of_create (h : b.Creating) {record : Record} {response : ErrorResponse}
    (hreply : b.reply (.create ns record) s = .error (.api response)) : 400 ≤ response.code := by
  cases hfind : b.find? s ns record.name with
  | some j =>
    obtain ⟨⟨e, hcode, he⟩, -⟩ := h.create_present hfind
    rw [he] at hreply
    cases hreply
    omega
  | none =>
    obtain ⟨j, hj⟩ := h.create_absent hfind
    rw [hj, MemoryStore.asRecord_ok] at hreply
    split at hreply <;> cases hreply

private theorem create_of_empty (hns : ns = "") :
    (d.create (some ns) app).run = .done (.error (.namespaceRequired .create)) := by
  rw [create, requireNamespace_of_missing .create (show (some ns).getD "" = "" from hns)]
  rfl

private theorem update_of_empty (hns : ns = "") :
    (d.update (some ns) n (fun _ => .ok app) true).run = .done (.error (.namespaceRequired .update)) := by
  rw [update, requireNamespace_of_missing .update (show (some ns).getD "" = "" from hns)]
  rfl

private theorem create_steps_of_fit (b : BackingStore σ) (s : σ) (hns : ns ≠ "")
    (h : app.addressedName? none ns = some n) :
    (d.create (some ns) app).run.calls b.answer s = [.create ns (sent d ns n app none)] ∧
      (d.create (some ns) app).run.run b.answer s =
        (d.projected .create n (b.reply (.create ns (sent d ns n app none)) s),
          b.after (.create ns (sent d ns n app none)) s) := by
  rw [create_of_fit hns h]
  exact ⟨rfl, rfl⟩

private theorem update_steps (b : BackingStore σ) (s : σ) (hns : ns ≠ "")
    {e : Exchange (Except Failure (Application × Bool))}
    (hafter : d.afterFetch ns n (fun _ => .ok app) true (b.reply (.get ns (d.names.toBacking n)) s) = e) :
    (d.update (some ns) n (fun _ => .ok app) true).run.calls b.answer s =
        .get ns (d.names.toBacking n) :: e.calls b.answer (b.after (.get ns (d.names.toBacking n)) s) ∧
      (d.update (some ns) n (fun _ => .ok app) true).run.run b.answer s =
        e.run b.answer (b.after (.get ns (d.names.toBacking n)) s) := by
  subst hafter
  rw [d.update_run hns]
  exact ⟨rfl, rfl⟩

/-- Where there is nothing to be updated, an update that may create comes to the same as a creation. -/
theorem created_alike (h : b.Creating) (hname : app.name = n) (hn : n ≠ "") (hvacant : d.Vacant b s ns n) :
    CreatedAlike b s (d.create (some ns) app).run (d.update (some ns) n (fun _ => .ok app) true).run := by
  by_cases hns : ns = ""
  · rw [create_of_empty hns, update_of_empty hns]
    exact ⟨rfl, rfl, .inr ⟨_, _, rfl, rfl, rfl, Nat.le_refl 400⟩⟩
  have hnone := fetchedForUpdate_of_vacant h hvacant
  let key := d.names.toBacking n
  by_cases hfit : app.Fits ns
  · -- Both send `c`, the update after a read that changes neither what `c` is answered nor what it leaves.
    obtain ⟨hcreated, hupdated⟩ := Application.addressedName?_of_fits hname hn hfit
    let c := BackingCall.create ns (sent d ns n app none)
    obtain ⟨hcalls, hrun⟩ := create_steps_of_fit (d := d) b s hns hcreated
    obtain ⟨hcalls', hupdate⟩ := update_steps b s hns (update_of_fit hupdated hnone)
    have hrun' : (d.update (some ns) n (fun _ => .ok app) true).run.run b.answer s =
        ((d.projected .update n (b.reply c s)).map (·, true), b.after c (b.after (.get ns key) s)) := by
      rw [hupdate, ← h.reply_after_get s ns key c]
      rfl
    refine ⟨by rw [hcalls, hcalls']; rfl, ?_, ?_⟩
    · rw [hrun, hrun']
      exact h.after_after_get s ns key c
    · rw [hrun, hrun']
      rcases d.projected_alike .create .update n (b.reply c s) with
        ⟨shown, hfirst, hsecond⟩ | ⟨f, f', hfirst, hsecond, hcode⟩
      · exact .inl ⟨shown, hfirst, by rw [hsecond]; rfl⟩
      · have herror : 400 ≤ f.code := code_of_projected (fun _ => code_of_create h) hfirst
        exact .inr ⟨f, f', hfirst, by rw [hsecond]; rfl, hcode, herror⟩
  · -- Neither sends anything to be created.
    obtain ⟨hcreated, hupdated⟩ := Application.addressedName?_of_unfit (n := n) hfit
    obtain ⟨message, hposted⟩ := create_of_unfit (d := d) hns hcreated
    obtain ⟨message', hafter⟩ := update_of_unfit hupdated hnone
    obtain ⟨hcalls', hrun'⟩ := update_steps b s hns hafter
    rw [hposted]
    refine ⟨by rw [hcalls']; rfl, ?_, ?_⟩
    · rw [hrun']
      exact h.contents_after_get s ns key
    · rw [hrun']
      exact .inr ⟨_, _, rfl, rfl, rfl, Nat.le_refl 400⟩

/-- A creation fails without a trace when the namespace of the application is another one than that of the request,
and when the name is taken. -/
theorem create_refused (h : b.Creating) (hname : app.name = n) (hn : n ≠ "")
    (hrefused : ¬ app.Fits ns ∨ (b.find? s ns (d.names.toBacking n)).isSome = true) :
    ∃ f, ((d.create (some ns) app).run.run b.answer s).1 = .error f ∧ 400 ≤ f.code ∧
      b.contents ((d.create (some ns) app).run.run b.answer s).2 = b.contents s := by
  by_cases hns : ns = ""
  · rw [create_of_empty hns]
    exact ⟨_, rfl, Nat.le_refl 400, rfl⟩
  by_cases hfit : app.Fits ns
  · obtain ⟨j, hj⟩ := Option.isSome_iff_exists.mp (hrefused.resolve_left (not_not_intro hfit))
    have hsent : b.find? s ns (sent d ns n app none).name = some j := hj
    obtain ⟨⟨e, hcode, hreply⟩, hcontents⟩ := h.create_present hsent
    obtain ⟨-, hrun⟩ := create_steps_of_fit (d := d) b s hns (Application.addressedName?_of_fits hname hn hfit).1
    rw [hrun, hreply]
    refine ⟨_, rfl, Failure.code_ofBacking ?_, hcontents⟩
    rintro response ⟨⟩
    omega
  · obtain ⟨message, hposted⟩ := create_of_unfit (d := d) hns (Application.addressedName?_of_unfit (n := n) hfit).1
    rw [hposted]
    exact ⟨_, rfl, Nat.le_refl 400, rfl⟩

/-- A creation of an application that agrees with the request, under a name that is free, sends the release that backs
it and shows the release that the store answers with. -/
theorem create_succeeds (h : b.Creating) (hns : ns ≠ "") (hname : app.name = n) (hn : n ≠ "") (hfit : app.Fits ns)
    (hfree : b.find? s ns (d.names.toBacking n) = none) :
    (d.create (some ns) app).run.calls b.answer s = [.create ns (sent d ns n app none)] ∧
      ∃ j, b.reply (.create ns (sent d ns n app none)) s = MemoryStore.asRecord (.ok j) ∧
        ∀ record r, Record.ofJson? j = some record → Release.ofRecord record = .ok r →
          ((d.create (some ns) app).run.run b.answer s).1 = .ok (d.toApplication r) := by
  obtain ⟨hcalls, hrun⟩ := create_steps_of_fit (d := d) b s hns (Application.addressedName?_of_fits hname hn hfit).1
  have hsent : b.find? s ns (sent d ns n app none).name = none := hfree
  obtain ⟨j, hreply⟩ := h.create_absent hsent
  refine ⟨hcalls, j, hreply, fun record r hrecord hr => ?_⟩
  rw [hrun, hreply, MemoryStore.asRecord_ok, hrecord]
  show d.project .create n record = _
  rw [project, readRelease, hr]
  rfl

end ResourceDefinition

end AppGateway
