import AppGateway.Proofs.Backing.Transactional
import AppGateway.Proofs.Gateway.Listing
import AppGateway.Proofs.Gateway.Moves
import AppGateway.Proofs.Sample

/-!
# A write happens or it does not

A creation, an update or a deletion that fails has left the store as it was.  One that succeeds has changed the one
record that it addresses.  What could stand in the way is the answer to a write, which is read once more to be shown: it
is what was sent with a new version, and what was sent can be read, so that no call fails after its write.

* (answers) `projected_of_stored`: the answer to a write that succeeded can be shown;
* (updates) `update_run_eq`: an update is a read, the updater, and a write, one after the other;
* (calls) `create_atomic`, `update_atomic`, `delete_atomic`;
* (main result) `writes_are_atomic`.
-/

namespace AppGateway

namespace ResourceDefinition

variable {σ : Type}

/-- An update that was carried out: what it had read, what the updater made of it, and how that was stored. -/
structure Updated (d : ResourceDefinition) (b : BackingStore σ) (ns name : String)
    (updater : Option Application → Except Failure Application) (mayCreate : Bool) (s s' : σ)
    (reply : ApplicationReply) (stored : Option Release) (app : Application) (mid : σ) : Prop where
  read : (d.fetchForUpdate ns name mayCreate).run.run b.answer s = (.ok stored, mid)
  unchanged : b.contents mid = b.contents s
  shown : stored.map d.toApplication = d.shownAt b s ns (d.names.toBacking name)
  missing : stored = none ↔ b.find? s ns (d.names.toBacking name) = none
  updated : updater (stored.map d.toApplication) = .ok app
  written : ∃ result, (d.storeUpdated ns name stored app).run.run b.answer mid = (.ok result, s') ∧
    reply = .stored result.1 result.2

/-- What a call that succeeds has done to the store. -/
structure Wrote (d : ResourceDefinition) (b : BackingStore σ) (call : ApplicationCall) (ns name : String) (s s' : σ)
    (reply : ApplicationReply) : Prop where
  addressed : call.name? = some name
  differ : b.DifferAt s s' ns (d.names.toBacking name)
  /-- What is stored carries the name and the namespace under which it is stored. -/
  stored : (∀ n, call ≠ .delete n) → ∃ j, b.find? s' ns (d.names.toBacking name) = some j ∧
    MemoryStore.metadataText j "name" = d.names.toBacking name ∧ MemoryStore.metadataText j "namespace" = ns
  deleted : (∃ n, call = .delete n) → b.find? s' ns (d.names.toBacking name) = none
  updated : ∀ n updater mayCreate, call = .update n updater mayCreate →
    ∃ stored app mid, d.Updated b ns name updater mayCreate s s' reply stored app mid

/-- A call has failed and left the store as it was, or it has succeeded and written. -/
def Atomic (d : ResourceDefinition) (b : BackingStore σ) (call : ApplicationCall) (ns : String) (s : σ)
    (result : Except Failure ApplicationReply × σ) : Prop :=
  (∃ failure, result.1 = .error failure ∧ b.contents result.2 = b.contents s) ∨
    ∃ name reply, result.1 = .ok reply ∧ d.Wrote b call ns name s result.2 reply

variable {d : ResourceDefinition} {b : BackingStore σ} {s s' : σ} {ns name : String}

/-! ### What is answered to a write -/

/-- The answer to a write is shown as the release that was written, under its new version. -/
theorem projected_of_stored {r : Release} (hr : r.settled.Rereads) {version key : String} {answer : Record}
    (h : b.Stored s s' ns key version r.toStored answer) (operation : Operation) (name : String) :
    ∃ app, d.projected operation name (.ok answer) = .ok app := by
  have hsettled := Release.settled_versioned_rereads hr version
  have hread : Record.ofJson? (r.versioned version).toJson = some answer := by
    rw [← Release.withVersion_toStored]
    exact h.answered
  have hanswer : MemoryStore.asRecord (.ok (r.versioned version).toJson) = .ok answer := by
    rw [MemoryStore.asRecord_ok, hread]
  rw [← hanswer]
  exact ⟨_, d.projected_settled hsettled⟩

/-- The object stored for a release carries its name and its namespace. -/
theorem metadata_of_stored {r : Release} {version key : String} {answer : Record}
    (h : b.Stored s s' ns key version r.toStored answer) :
    ∃ j, b.find? s' ns key = some j ∧ MemoryStore.metadataText j "name" = r.name ∧
      MemoryStore.metadataText j "namespace" = r.metadata.ns.getD "" := by
  have hj : MemoryStore.withVersion version r.toStored.toJson = (r.versioned version).toStored.toJson := by
    rw [Release.withVersion_toStored, Release.toStored_toJson]
  refine ⟨_, (h.find? ns key).trans (if_pos ⟨rfl, rfl⟩), ?_, ?_⟩
  · rw [hj, MemoryStore.name_toJson]
    rfl
  · rw [hj, MemoryStore.ns_toJson]
    rfl

/-- The write of a release fails without a trace, or it has put the release and can be shown. -/
theorem write_outcome {α : Type} (s s' : σ) (ns key : String) {r : Release} (hr : r.settled.Rereads)
    (reply : Except BackingError Record) (herror : ∀ e, reply = .error e → b.contents s' = b.contents s)
    (hok : ∀ answer, reply = .ok answer → ∃ version, b.Stored s s' ns key version r.toStored answer)
    (operation : Operation) (name : String) (f : Application → α) :
    (∃ failure, (d.projected operation name reply).map f = .error failure ∧ b.contents s' = b.contents s) ∨
      ∃ app version answer, (d.projected operation name reply).map f = .ok (f app) ∧ reply = .ok answer ∧
        b.Stored s s' ns key version r.toStored answer := by
  cases reply with
  | error e => exact .inl ⟨.ofBacking operation name e, rfl, herror e rfl⟩
  | ok answer =>
    obtain ⟨version, hstored⟩ := hok answer rfl
    obtain ⟨app, happ⟩ := projected_of_stored hr hstored operation name
    exact .inr ⟨app, version, answer, by rw [happ]; rfl, rfl, hstored⟩

/-! ### Creation and deletion -/

/-- A creation fails and changes nothing, or it stores the one record. -/
theorem create_atomic (h : b.Transactional) (hns : ns ≠ "") (app : Application) (s : σ) :
    d.Atomic b (.create app) ns s (d.perform b (some ns) (.create app) s) := by
  cases hfit : app.addressedName? none ns with
  | none =>
    obtain ⟨message, hrecord⟩ := d.createdRecord_of_none hfit
    rw [perform_create_of_error b hns hrecord]
    exact .inl ⟨_, rfl, rfl⟩
  | some name =>
    have hname : app.name = name := (Application.addressedName?_eq_getD hfit).symm
    let release := d.toRelease (app.addressedAs name ns) none
    have hr : release.settled.Rereads := d.toRelease_settled_rereads _ (by simp)
    rw [perform_create_of_ok b hns (d.createdRecord_of_some hfit)]
    rcases write_outcome s _ ns release.name hr (b.reply (.create ns release.toStored) s)
      (fun _ => h.error_keeps) (fun _ => h.create_ok) .create name ApplicationReply.one with
      ⟨failure, hfailed, hkept⟩ | ⟨shown, version, answer, hshown, -, hstored⟩
    · exact .inl ⟨failure, hfailed, hkept⟩
    · refine .inr ⟨name, .one shown, hshown, ?_⟩
      exact {
        addressed := congrArg some hname
        differ := hstored.differAt
        stored := fun _ => metadata_of_stored hstored
        deleted := fun hdelete => by
          obtain ⟨n, hn⟩ := hdelete
          cases hn
        updated := fun n updater mayCreate hupdate => by cases hupdate }

/-- What was fetched is stored. -/
theorem stored_of_fetched (h : b.Transactional) {operation : Operation} {key : String} {release : Release}
    (hr : d.fetched operation name (b.reply (.get ns key) s) = .ok release) :
    (∃ j, b.find? s ns key = some j) ∧ d.shownAt b s ns key = some (d.toApplication release) := by
  obtain ⟨record, hget, hrelease, hscope⟩ := d.of_fetched hr
  obtain ⟨-, j, hj, hrecord⟩ := h.get_ok hget
  have hread : b.record? s ns key = some record := by rw [BackingStore.record?, hj, Option.bind_some, hrecord]
  refine ⟨⟨j, hj⟩, ?_⟩
  rw [shownAt, hread, Option.bind_some]
  exact shown?_eq_some.mpr ⟨release, hrelease, hscope, rfl⟩

/-- A deletion fails and changes nothing, or it removes the one record. -/
theorem delete_atomic (h : b.Transactional) (hns : ns ≠ "") (name : String) (s : σ) :
    d.Atomic b (.delete name) ns s (d.perform b (some ns) (.delete name) s) := by
  have hkept := h.contents_after_get s ns (d.names.toBacking name)
  rw [perform, action, Action.run_map, d.delete_run hns, Exchange.run]
  cases hfetched : d.fetched .delete name (b.answer (.get ns (d.names.toBacking name)) s).1 with
  | error failure => exact .inl ⟨failure, rfl, hkept⟩
  | ok release =>
    obtain ⟨⟨j, hj⟩, -⟩ := stored_of_fetched h hfetched
    have hfind := (BackingStore.find?_of_contents_eq hkept ns (d.names.toBacking name)).trans hj
    -- From here on only the deletion itself can fail.
    let mid := b.after (.get ns (d.names.toBacking name)) s
    cases hreply : b.reply (.delete ns (d.names.toBacking name)) mid with
    | error e =>
      refine .inl ⟨.ofBacking .delete name e, ?_, (h.error_keeps hreply).trans hkept⟩
      show (Except.mapError _ (b.reply (.delete ns (d.names.toBacking name)) mid)).map _ = _
      rw [hreply]
      rfl
    | ok _ =>
      have herased : b.Erased s (b.after (.delete ns (d.names.toBacking name)) mid) ns (d.names.toBacking name) := by
        intro ns'
        rw [h.delete_ok hreply ns', hkept]
      refine .inr ⟨name, .gone, ?_, ?_⟩
      · show (Except.mapError _ (b.reply (.delete ns (d.names.toBacking name)) mid)).map _ = _
        rw [hreply]
        rfl
      · exact {
          addressed := rfl
          differ := herased.differAt hj
          stored := fun hkeeps => absurd rfl (hkeeps name)
          deleted := fun _ => (herased.find? ns (d.names.toBacking name)).trans (if_pos ⟨rfl, rfl⟩)
          updated := fun n updater mayCreate hupdate => by cases hupdate }

/-! ### Updates -/

/-- An update reads, hands what it has read to the updater, and stores what comes of it. -/
theorem update_run_eq (hns : ns ≠ "") (name : String) (updater : Option Application → Except Failure Application)
    (mayCreate : Bool) (s : σ) :
    (d.update (some ns) name updater mayCreate).run.run b.answer s =
      match (d.fetchForUpdate ns name mayCreate).run.run b.answer s with
      | (.error failure, mid) => (.error failure, mid)
      | (.ok stored, mid) =>
        match updater (stored.map d.toApplication) with
        | .error failure => (.error failure, mid)
        | .ok app => (d.storeUpdated ns name stored app).run.run b.answer mid := by
  rw [update, requireNamespace_of_ne _ hns, Action.run_of_bind, Action.next, Action.run_bind, Exchange.run_andThen]
  rcases (d.fetchForUpdate ns name mayCreate).run.run b.answer s with ⟨failure | stored, mid⟩
  · rfl
  · dsimp only
    rw [Action.next, Action.run_of_bind]
    cases updater (stored.map d.toApplication) <;> rfl

theorem fetchForUpdate_run_eq (name : String) (mayCreate : Bool) (s : σ) :
    (d.fetchForUpdate ns name mayCreate).run.run b.answer s =
      (d.fetchedForUpdate name mayCreate (b.reply (.get ns (d.names.toBacking name)) s),
        b.after (.get ns (d.names.toBacking name)) s) := by
  rw [fetchForUpdate_run]
  rfl

/-- The second half of an update fails without a trace, or it puts a release with the name and the namespace of the
request, and creates one only where there is none. -/
private theorem storeUpdated_outcome (h : b.Transactional) {stored : Option Release}
    (hstored : ∀ r, stored = some r → r.Rereads) (name : String) (app : Application) (mid : σ) :
    let result := (d.storeUpdated ns name stored app).run.run b.answer mid
    (∃ failure, result.1 = .error failure ∧ b.contents result.2 = b.contents mid) ∨
      ∃ written version answer, ∃ r : Release, result.1 = .ok written ∧ r.name = d.names.toBacking name ∧
        r.metadata.ns = some ns ∧ b.Stored mid result.2 ns r.name version r.toStored answer ∧
        (stored = none → b.find? mid ns r.name = none) := by
  intro result
  have hresult : result = (d.storeUpdated ns name stored app).run.run b.answer mid := rfl
  rw [d.storeUpdated_run] at hresult
  cases hfit : app.addressedName? (some name) ns with
  | none =>
    obtain ⟨message, hrecord⟩ := d.writtenRecord_of_none stored hfit
    rw [hrecord] at hresult
    rw [hresult]
    exact .inl ⟨_, rfl, rfl⟩
  | some n =>
    cases addressedName?_eq hfit
    let r := d.toRelease (app.addressedAs name ns) stored
    have hr : r.settled.Rereads := d.toRelease_settled_rereads _ hstored
    have hrecord : d.writtenRecord ns name stored app = .ok r.toStored :=
      (d.writtenRecord_of_some hfit).trans (writeRelease_of_settled hr)
    rw [hrecord] at hresult
    cases stored with
    | none =>
      rw [hresult]
      rcases write_outcome mid _ ns r.name hr (b.reply (.create ns r.toStored) mid)
        (fun _ => h.error_keeps) (fun _ => h.create_ok) .update name (·, true) with
        hfailed | ⟨shown, version, answer, hshown, hanswer, hput⟩
      · exact .inl hfailed
      · refine .inr ⟨_, version, answer, r, hshown, rfl, rfl, hput, fun _ => ?_⟩
        -- Had there been an object, the store would have refused to create it.
        cases hfind : b.find? mid ns r.name with
        | none => rfl
        | some j =>
          obtain ⟨e, he⟩ : ∃ e, b.reply (.create ns r.toStored) mid = .error e := h.create_present hfind
          cases he.symm.trans hanswer
    | some old =>
      rw [hresult]
      rcases write_outcome mid _ ns r.name hr (b.reply (.replace ns r.name r.toStored) mid)
        (fun _ => h.error_keeps) (fun _ => h.replace_ok) .update name (·, false) with
        hfailed | ⟨shown, version, answer, hshown, -, hput⟩
      · exact .inl hfailed
      · exact .inr ⟨_, version, answer, r, hshown, rfl, rfl, hput, fun hs => by cases hs⟩

/-- What an update has found before it writes: the release that is stored, or none. -/
private theorem fetchedForUpdate_spec (h : b.Transactional) {mayCreate : Bool} {stored : Option Release}
    (hfetched : d.fetchedForUpdate name mayCreate (b.reply (.get ns (d.names.toBacking name)) s) = .ok stored)
    {r : Release} (hr : stored = some r) :
    r.Rereads ∧ (∃ j, b.find? s ns (d.names.toBacking name) = some j) ∧
      d.shownAt b s ns (d.names.toBacking name) = some (d.toApplication r) := by
  subst hr
  have hread := d.fetched_of_fetchedForUpdate hfetched
  obtain ⟨record, -, hrelease, -⟩ := d.of_fetched hread
  exact ⟨Release.rereads_of_ofRecord hrelease, stored_of_fetched h hread⟩

/-- An update that has written was given what is shown of the stored record, or none if there was no record. -/
private theorem found_iff {key : String} {stored : Option Release}
    (hsome : ∀ r, stored = some r →
      (∃ j, b.find? s ns key = some j) ∧ d.shownAt b s ns key = some (d.toApplication r))
    (hnone : stored = none → b.find? s ns key = none) :
    stored.map d.toApplication = d.shownAt b s ns key ∧ (stored = none ↔ b.find? s ns key = none) := by
  cases stored with
  | none =>
    have hfind := hnone rfl
    refine ⟨?_, fun _ => hfind, fun _ => rfl⟩
    rw [shownAt, BackingStore.record?, hfind]
    rfl
  | some r =>
    obtain ⟨⟨j, hj⟩, hshown⟩ := hsome r rfl
    refine ⟨hshown.symm, fun hs => ?_, fun hfind => ?_⟩
    · cases hs
    · cases hj.symm.trans hfind

/-- An update fails and changes nothing, whatever its updater does, or it stores the one record. -/
theorem update_atomic (h : b.Transactional) (hns : ns ≠ "") (name : String)
    (updater : Option Application → Except Failure Application) (mayCreate : Bool) (s : σ) :
    d.Atomic b (.update name updater mayCreate) ns s (d.perform b (some ns) (.update name updater mayCreate) s) := by
  let mid := b.after (.get ns (d.names.toBacking name)) s
  have hkept : b.contents mid = b.contents s := h.contents_after_get s ns (d.names.toBacking name)
  have hread : (d.fetchForUpdate ns name mayCreate).run.run b.answer s = (_, mid) :=
    fetchForUpdate_run_eq name mayCreate s
  rw [perform, action, Action.run_map, update_run_eq hns, hread]
  cases hfetched : d.fetchedForUpdate name mayCreate (b.reply (.get ns (d.names.toBacking name)) s) with
  | error failure => exact .inl ⟨failure, rfl, hkept⟩
  | ok stored =>
    rw [hfetched] at hread
    cases happ : updater (stored.map d.toApplication) with
    | error failure =>
      simp only [happ]
      exact .inl ⟨failure, rfl, hkept⟩
    | ok app =>
      simp only [happ]
      have hspec (r : Release) (hr : stored = some r) := fetchedForUpdate_spec h hfetched hr
      rcases storeUpdated_outcome h (fun r hr => (hspec r hr).1) name app mid with
        ⟨failure, hfailed, hsame⟩ | ⟨written, version, answer, r, hwritten, hname, hplaced, hput, hmissing⟩
      · exact .inl ⟨failure, by rw [hfailed]; rfl, hsame.trans hkept⟩
      · have hput := hput.of_contents_eq hkept
        rw [hname] at hput hmissing
        obtain ⟨hshown, hnone⟩ := found_iff (fun r hr => (hspec r hr).2) fun hs =>
          (BackingStore.find?_of_contents_eq hkept _ _).symm.trans (hmissing hs)
        refine .inr ⟨name, .stored written.1 written.2, by rw [hwritten]; rfl, ?_⟩
        exact {
          addressed := rfl
          differ := hput.differAt
          stored := fun _ => by
            obtain ⟨j, hj, hjname, hjns⟩ := metadata_of_stored hput
            exact ⟨j, hj, hjname.trans hname, by rw [hjns, hplaced, Option.getD_some]⟩
          deleted := fun hdelete => by
            obtain ⟨n, hn⟩ := hdelete
            cases hn
          updated := fun n u m hcall => by
            cases hcall
            exact ⟨stored, app, mid, hread, hkept, hshown, hnone, happ, written, Prod.ext hwritten rfl, rfl⟩ }

/-! ### Main result -/

/-- A creation, an update or a deletion that fails leaves the store as it was.  One that succeeds names a namespace and
an application in it, and changes exactly the record behind this application; what is stored there then carries the
prefixed name and the namespace, or nothing is after a deletion.  An update has read before it wrote, and has run its
updater once in between, on what is shown of the stored record, or on none exactly if there was no record. -/
theorem writes_are_atomic (h : b.Transactional) (d : ResourceDefinition) (ns : Option String)
    {call : ApplicationCall} (hcall : call.Writes) (s : σ) :
    (∀ failure, (d.perform b ns call s).1 = .error failure →
      b.contents (d.perform b ns call s).2 = b.contents s) ∧
    ∀ reply, (d.perform b ns call s).1 = .ok reply →
      ∃ ns' name, ns = some ns' ∧ d.Wrote b call ns' name s (d.perform b ns call s).2 reply := by
  by_cases hmissing : ns.getD "" = ""
  · have hrun : d.perform b ns call s = (.error (.namespaceRequired call.operation), s) := by
      rw [perform, d.namespaceRequired_run hmissing]
      rfl
    rw [hrun]
    exact ⟨fun _ _ => rfl, fun _ hok => by cases hok⟩
  · cases ns with
    | none => exact absurd rfl hmissing
    | some ns =>
      have hns : ns ≠ "" := hmissing
      have hatomic : d.Atomic b call ns s (d.perform b (some ns) call s) := by
        cases call with
        | create app => exact create_atomic h hns app s
        | update name updater mayCreate => exact update_atomic h hns name updater mayCreate s
        | delete name => exact delete_atomic h hns name s
        | _ => exact hcall.elim
      rcases hatomic with ⟨failure, hfailed, hkept⟩ | ⟨name, reply, hok, hwrote⟩
      · exact ⟨fun _ _ => hkept, fun reply hok => by cases hfailed.symm.trans hok⟩
      · refine ⟨fun failure hfailed => ?_, fun reply' hok' => ?_⟩
        · cases hok.symm.trans hfailed
        cases hok.symm.trans hok'
        exact ⟨ns, name, rfl, hwrote⟩

/-- A store that holds the release of the sample application. -/
def shopStore : {s : {s : MemoryStore // s.Sound} // MemoryStore.backing.Stamped MemoryStore.Issued s} :=
  ⟨MemoryStore.holding "tenant" webShop, MemoryStore.stamped_single _ _ (MemoryStore.tidy_toJson _)⟩

/-- An update to another version of the sample application, which is called by a name. -/
def renamedUpdate (name : String) : ApplicationCall :=
  .update "shop" (fun current => .ok { current.getD sampleApp with
    metadata := { name := some name }
    appVersion := "2" }) false

/-- An update that changes the name is refused and leaves no trace; one that keeps it changes the one release. -/
theorem renaming_leaves_no_trace :
    (renamedUpdate "blog").Writes ∧
      MemoryStore.undoing.contents
        (sampleType.perform MemoryStore.undoing (some "tenant") (renamedUpdate "blog") shopStore).2 =
          MemoryStore.undoing.contents shopStore ∧
      MemoryStore.undoing.DifferAt shopStore
        (sampleType.perform MemoryStore.undoing (some "tenant") (renamedUpdate "shop") shopStore).2
        "tenant" "web-shop" := by
  have hatomic (name : String) := writes_are_atomic MemoryStore.transactional_undoing sampleType (some "tenant")
    (show (renamedUpdate name).Writes from trivial) shopStore
  have hrefused : ∃ failure, (sampleType.perform MemoryStore.undoing (some "tenant") (renamedUpdate "blog")
      shopStore).1 = .error failure := ⟨_, rfl⟩
  have hdone : ∃ reply, (sampleType.perform MemoryStore.undoing (some "tenant") (renamedUpdate "shop")
      shopStore).1 = .ok reply := ⟨_, rfl⟩
  obtain ⟨failure, hrefused⟩ := hrefused
  obtain ⟨reply, hdone⟩ := hdone
  refine ⟨trivial, (hatomic "blog").1 failure hrefused, ?_⟩
  obtain ⟨ns, name, hns, hwrote⟩ := (hatomic "shop").2 reply hdone
  cases hns
  cases hwrote.addressed
  exact hwrote.differ

end ResourceDefinition

end AppGateway
