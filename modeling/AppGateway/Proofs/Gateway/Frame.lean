import AppGateway.Proofs.Backing.Memory
import AppGateway.Proofs.Gateway.Request
import AppGateway.Proofs.Resource.Reread
import AppGateway.Proofs.Sample

/-!
# Records of others are left alone

A stored object belongs to a type of application when it is a release that installs the chart of this type
(`ResourceDefinition.owns`).  What a call may change is the one object that it addresses, and only if that belongs to
the type; every other object is foreign to the call (`ResourceDefinition.Foreign`).

* (guards) nothing is created over an object that exists (`create_keeps`), and an update, a patch and a deletion write
  only after they have read the object as a release of the type (`owns_of_fetched`);
* (step) `perform_keeps_foreign`: no call changes an object that is foreign to it;
* (run) `foreign_records_untouched`: this holds of every call of a run, whatever the calls before it have done.
-/

namespace AppGateway

namespace ResourceDefinition

variable {σ : Type} (d : ResourceDefinition)

/-- Whether a stored object is a release of this type. -/
def owns (j : Json) : Bool := ((Record.ofJson? j).bind d.shown?).isSome

/-- An object stored under a namespace and a name is foreign to a call: it is in another namespace, or has another
name than the release of the application that is addressed, or does not belong to the type. -/
def Foreign (ns : Option String) (call : ApplicationCall) (ns' name' : String) (j : Json) : Prop :=
  ns ≠ some ns' ∨ call.name?.map d.names.toBacking ≠ some name' ∨ d.owns j = false

variable {d} {b : BackingStore σ} {s : σ} {ns ns' name name' : String} {j : Json}

/-! ### Guards -/

/-- What was read as a release of the type belongs to the type. -/
theorem owns_of_fetched (h : b.Keyed) {operation : Operation} {release : Release}
    (hr : d.fetched operation name (b.reply (.get ns name') s) = .ok release)
    (hj : b.find? s ns name' = some j) : d.owns j = true := by
  obtain ⟨record, hget, hrelease, hscope⟩ := d.of_fetched hr
  obtain ⟨j', hj', hrecord⟩ := h.get_stored hget
  rw [hj] at hj'
  cases hj'
  simp [owns, hrecord, shown?, hrelease, hscope]

/-- A get changes nothing. -/
theorem get_keeps (h : b.Keyed) (hj : b.find? s ns' name' = some j) (ns name : String) :
    b.find? (b.after (.get ns name) s) ns' name' = some j := by
  rw [h.elsewhere (by simp [BackingCall.target?]), hj]

/-- A creation changes no object that exists. -/
theorem create_keeps (h : b.Keyed) (record : Record) (hj : b.find? s ns' name' = some j) :
    b.find? (b.after (.create ns record) s) ns' name' = some j := by
  by_cases hk : (ns, record.name) = (ns', name')
  · obtain ⟨rfl, rfl⟩ := Prod.mk.inj hk
    exact (h.create_present hj).2
  · rw [h.elsewhere (by simpa [BackingCall.target?] using hk), hj]

/-- A call that writes another object changes nothing. -/
theorem write_keeps (h : b.Keyed) {c : BackingCall} (hc : c.target? = some (ns, name))
    (hk : (ns, name) ≠ (ns', name')) (hj : b.find? s ns' name' = some j) :
    b.find? (b.after c s) ns' name' = some j := by
  rw [h.elsewhere (by rw [hc]; exact fun he => hk (Option.some.inj he)), hj]

/-! ### One call -/

private theorem create_run_keeps (h : b.Keyed) (hns : ns ≠ "") (hj : b.find? s ns' name' = some j) (app : Application) :
    b.find? ((d.create (some ns) app).run.run b.answer s).2 ns' name' = some j := by
  rw [create_run d hns]
  split
  · exact hj
  · exact create_keeps h _ hj

private theorem update_run_keeps (h : b.Keyed) (hns : ns ≠ "") (hj : b.find? s ns' name' = some j)
    (updater : Option Application → Except Failure Application) (mayCreate : Bool)
    (hf : ns ≠ ns' ∨ d.names.toBacking name ≠ name' ∨ d.owns j = false) :
    b.find? ((d.update (some ns) name updater mayCreate).run.run b.answer s).2 ns' name' = some j := by
  rw [update_run d hns]
  show b.find? ((d.afterFetch ns name updater mayCreate (b.reply (.get ns (d.names.toBacking name)) s)).run b.answer
    (b.after (.get ns (d.names.toBacking name)) s)).2 ns' name' = some j
  have hget := get_keeps h hj ns (d.names.toBacking name)
  rw [afterFetch]
  split
  · exact hget
  · rename_i stored hstored
    split
    · exact hget
    · rename_i record _
      cases stored with
      -- Nothing in scope was found, but something else may be stored there, and then the creation is refused.
      | none => exact create_keeps h record hget
      | some release =>
        -- The object that is replaced was read as a release of the type.
        refine write_keeps h rfl (fun hk => ?_) hget
        obtain ⟨rfl, rfl⟩ := Prod.mk.inj hk
        have howns := owns_of_fetched h (d.fetched_of_fetchedForUpdate hstored) hj
        simp [howns] at hf

private theorem patch_run_keeps (h : b.Keyed) (hns : ns ≠ "") (hj : b.find? s ns' name' = some j) (p : Patch)
    (hf : ns ≠ ns' ∨ d.names.toBacking name ≠ name' ∨ d.owns j = false) :
    b.find? ((d.patch (some ns) name p).run.run b.answer s).2 ns' name' = some j := by
  have hget := get_keeps h hj ns (d.names.toBacking name)
  rw [patch_run d hns, Exchange.run]
  split
  · exact hget
  · rename_i release hr
    refine write_keeps h rfl (fun hk => ?_) hget
    obtain ⟨rfl, rfl⟩ := Prod.mk.inj hk
    have howns := owns_of_fetched h hr hj
    simp [howns] at hf

private theorem delete_run_keeps (h : b.Keyed) (hns : ns ≠ "") (hj : b.find? s ns' name' = some j)
    (hf : ns ≠ ns' ∨ d.names.toBacking name ≠ name' ∨ d.owns j = false) :
    b.find? ((d.delete (some ns) name).run.run b.answer s).2 ns' name' = some j := by
  have hget := get_keeps h hj ns (d.names.toBacking name)
  rw [delete_run d hns, Exchange.run]
  split
  · exact hget
  · rename_i release hr
    refine write_keeps h rfl (fun hk => ?_) hget
    obtain ⟨rfl, rfl⟩ := Prod.mk.inj hk
    have howns := owns_of_fetched h hr hj
    simp [howns] at hf

/-- No call changes an object that is foreign to it. -/
theorem perform_keeps_foreign (h : b.Keyed) (hj : b.find? s ns' name' = some j) {ns : Option String}
    {call : ApplicationCall} (hf : d.Foreign ns call ns' name' j) :
    b.find? (d.perform b ns call s).2 ns' name' = some j := by
  by_cases hns : ns.getD "" = ""
  · rw [perform, namespaceRequired_run d hns]
    exact hj
  · obtain ⟨ns, rfl⟩ : ∃ n, ns = some n := by
      cases ns with
      | none => exact absurd rfl hns
      | some n => exact ⟨n, rfl⟩
    replace hns : ns ≠ "" := hns
    simp only [Foreign, ne_eq, Option.some.injEq] at hf
    -- A creation needs no guard but the store's own; what writes over an object has read it first.
    rw [perform]
    cases call with
    | create app =>
      rw [action, Action.run_map]
      exact create_run_keeps h hns hj app
    | get name =>
      rw [action, Action.run_map, get_run d hns]
      exact get_keeps h hj ns _
    | list options =>
      rw [action, Action.run_map, list_run d hns]
      exact (h.elsewhere (by simp [BackingCall.target?])).trans hj
    | update name updater mayCreate =>
      rw [action, Action.run_map]
      exact update_run_keeps h hns hj updater mayCreate (by simpa [ApplicationCall.name?] using hf)
    | patch name p =>
      rw [action, Action.run_map]
      exact patch_run_keeps h hns hj p (by simpa [ApplicationCall.name?] using hf)
    | delete name =>
      rw [action, Action.run_map]
      exact delete_run_keeps h hns hj (by simpa [ApplicationCall.name?] using hf)

/-! ### Runs -/

/-- No call of a run changes an object that is foreign to it, and a call without a namespace asks the store nothing. -/
theorem foreign_records_untouched (h : b.Keyed) (requests : List (Option String × ApplicationCall)) (s : σ) :
    ∀ p ∈ d.trace b requests s,
      (∀ ns name j, b.find? p.before ns name = some j → d.Foreign p.ns p.call ns name j →
        b.find? p.after ns name = some j) ∧
      (p.ns.getD "" = "" → (d.action p.ns p.call).run = .done (.error (.namespaceRequired p.call.operation)) ∧
        p.reply = .error (.namespaceRequired p.call.operation) ∧ p.after = p.before) := by
  induction requests generalizing s with
  | nil => simp [trace]
  | cons request rest ih =>
    obtain ⟨ns, call⟩ := request
    intro p hp
    rcases List.mem_cons.mp hp with rfl | hp
    · refine ⟨fun ns' name' j hj hf => perform_keeps_foreign h hj hf, fun hns => ?_⟩
      have hrun := d.namespaceRequired_run hns call
      simp only [perform, hrun]
      exact ⟨trivial, rfl, rfl⟩
    · exact ih _ p hp

/-- The release of an application of another type. -/
private def otherRelease : Record :=
  ({ sampleType with release := { sampleType.release with chart.name := "blog" } }.toRelease sampleApp none).toStored

/-- A release that has the name of an application, but another chart, outlives the deletion of the application. -/
theorem deletion_spares_other_charts :
    let s : {s : MemoryStore // s.Sound} :=
      ⟨.single "tenant" "web-shop" otherRelease.toJson, MemoryStore.sound_single _ _ (MemoryStore.tidy_toJson _)⟩
    MemoryStore.backing.find? (sampleType.perform MemoryStore.backing (some "tenant") (.delete "shop") s).2
      "tenant" "web-shop" = some (MemoryStore.withVersion "100" otherRelease.toJson) ∧
    (sampleType.action none (.get "shop")).run = .done (.error (.namespaceRequired .get)) := by
  intro s
  have h := foreign_records_untouched MemoryStore.keyed_backing (d := sampleType)
    [(some "tenant", .delete "shop"), (none, .get "shop")] s
  have hfirst := (h _ List.mem_cons_self).1
  have hsecond := (h _ (List.mem_cons_of_mem _ List.mem_cons_self)).2
  exact ⟨hfirst "tenant" "web-shop" _ rfl (.inr (.inr rfl)), (hsecond rfl).1⟩

end ResourceDefinition

end AppGateway
