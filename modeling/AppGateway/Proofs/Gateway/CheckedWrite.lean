import AppGateway.Proofs.Backing.Interleaving
import AppGateway.Proofs.Gateway.Frame
import AppGateway.Proofs.Gateway.Listing
import AppGateway.Proofs.Sample

/-!
# A write after a check

A deletion and a patch first get the record, to see that it is a release of the type, and then write it by its name.
The write names no version, so that it is made whatever other clients have put there in the meantime.

* (program) `ResourceDefinition.guarded`: a check and then a write, which is what a deletion and a patch are;
* (stages) `Stage`: how far such a program has come among other clients, and what it has seen;
* (result) `writes_what_it_checked`: what is written over or removed is the object that was checked, or what another
  client has left in its place since then;
* `moved_release_is_deleted`: such a client may have given it another chart.
-/

namespace AppGateway

namespace ResourceDefinition

variable {σ : Type} (d : ResourceDefinition) {b : BackingStore σ} {ns name : String} {operation : Operation}
  {act : BackingCall} {finish : act.Answer → Except Failure ApplicationReply}

/-- A call that is made once a get has found the release of an application. -/
def guarded (operation : Operation) (ns name : String) (act : BackingCall)
    (finish : act.Answer → Except Failure ApplicationReply) : Exchange (Except Failure ApplicationReply) :=
  .call (.get ns (d.names.toBacking name)) fun answer =>
    match d.fetched operation name answer with
    | .error failure => .done (.error failure)
    | .ok _ => .call act fun answer => .done (finish answer)

/-- A patch is a write behind a check. -/
theorem patch_guarded (hns : ns ≠ "") (name : String) (p : Patch) :
    (d.action (some ns) (.patch name p)).run =
      d.guarded .patch ns name (.patch ns (d.names.toBacking name) p) fun answer =>
        (d.projected .patch name answer).map .one := by
  rw [action, Action.run_bind, d.patch_run hns, guarded]
  show Exchange.call _ _ = _
  congr 1
  funext answer
  beta_reduce
  cases d.fetched .patch name answer with
  | error failure => rfl
  | ok release =>
    show Exchange.call _ _ = Exchange.call _ _
    congr 1
    funext answer
    cases h : d.projected .patch name answer <;> simp only [h] <;> rfl

/-- A deletion is a write behind a check. -/
theorem delete_guarded (hns : ns ≠ "") (name : String) :
    (d.action (some ns) (.delete name)).run =
      d.guarded .delete ns name (.delete ns (d.names.toBacking name)) fun answer =>
        (answer.mapError (Failure.ofBacking .delete name)).map fun _ => .gone := by
  rw [action, Action.run_bind, d.delete_run hns, guarded]
  show Exchange.call _ _ = _
  congr 1
  funext answer
  beta_reduce
  cases d.fetched .delete name answer with
  | error failure => rfl
  | ok release =>
    show Exchange.call _ _ = Exchange.call _ _
    congr 1
    funext answer
    cases answer <;> rfl

/-- The second step of a deletion or a patch. -/
def actOf (ns : String) : ApplicationCall → Option BackingCall
  | .patch name p => some (.patch ns (d.names.toBacking name) p)
  | .delete name => some (.delete ns (d.names.toBacking name))
  | _ => none

end ResourceDefinition

/-- How far a guarded call has come, by the calls in the log. -/
inductive Stage {σ : Type} (d : ResourceDefinition) (b : BackingStore σ) (operation : Operation) (ns name : String)
    (act : BackingCall) (finish : act.Answer → Except Failure ApplicationReply) :
    List (Event σ Unit) → Exchange (Except Failure ApplicationReply) → Prop
  /-- It has made no call yet. -/
  | begun {log} (h : ∀ e ∈ log, e.actor = none) : Stage d b operation ns name act finish log
      (d.guarded operation ns name act finish)
  /-- It is over, and has not acted. -/
  | refused {log failure} (h : ∀ e ∈ log, e.actor = some () → e.call.target? = none) :
      Stage d b operation ns name act finish log (.done (.error failure))
  /-- It has found the release, and is about to act. -/
  | checked {before between s release} (hbefore : ∀ e ∈ before, e.actor = none) (hbetween : ∀ e ∈ between, e.actor = none)
      (hfound : d.fetched operation name (b.reply (.get ns (d.names.toBacking name)) s) = .ok release) :
      Stage d b operation ns name act finish
        (before ++ ⟨some (), .get ns (d.names.toBacking name), s⟩ :: between)
        (.call act fun answer => .done (finish answer))
  /-- It is over, and has acted. -/
  | acted {before between after s s' release} (hbefore : ∀ e ∈ before, e.actor = none)
      (hbetween : ∀ e ∈ between, e.actor = none) (hafter : ∀ e ∈ after, e.actor = none)
      (hfound : d.fetched operation name (b.reply (.get ns (d.names.toBacking name)) s) = .ok release) :
      Stage d b operation ns name act finish
        (before ++ ⟨some (), .get ns (d.names.toBacking name), s⟩ :: (between ++ ⟨some (), act, s'⟩ :: after))
        (.done (finish (b.reply act s')))

namespace Stage

variable {σ : Type} {d : ResourceDefinition} {b : BackingStore σ} {operation : Operation} {ns name : String}
  {act : BackingCall} {finish : act.Answer → Except Failure ApplicationReply} {log : List (Event σ Unit)}
  {x : Exchange (Except Failure ApplicationReply)}

private theorem actor_of_mem_snoc {log : List (Event σ Unit)} (h : ∀ e ∈ log, e.actor = none) (c : BackingCall) (s : σ) :
    ∀ e ∈ log ++ [⟨none, c, s⟩], e.actor = none := by
  intro e he
  rcases List.mem_append.mp he with he | he
  · exact h e he
  · rw [List.mem_singleton.mp he]

/-- A call of another client. -/
theorem other (h : Stage d b operation ns name act finish log x) (c : BackingCall) (s : σ) :
    Stage d b operation ns name act finish (log ++ [⟨none, c, s⟩]) x := by
  cases h with
  | begun h => exact .begun (actor_of_mem_snoc h c s)
  | refused h =>
    refine .refused fun e he hown => ?_
    rcases List.mem_append.mp he with he | he
    · exact h e he hown
    · rw [List.mem_singleton.mp he] at hown
      cases hown
  | checked hbefore hbetween hfound =>
    rw [List.append_assoc, List.cons_append]
    exact .checked hbefore (actor_of_mem_snoc hbetween c s) hfound
  | acted hbefore hbetween hafter hfound =>
    rw [List.append_assoc, List.cons_append, List.append_assoc, List.cons_append]
    exact .acted hbefore hbetween (actor_of_mem_snoc hafter c s) hfound

/-- A call of its own. -/
private theorem own {c : BackingCall} {next : c.Answer → Exchange (Except Failure ApplicationReply)} (s : σ)
    (h : Stage d b operation ns name act finish log (.call c next)) :
    Stage d b operation ns name act finish (log ++ [⟨some (), c, s⟩]) (next (b.reply c s)) := by
  generalize hx : Exchange.call c next = x at h
  cases h with
  | begun h =>
    rw [ResourceDefinition.guarded] at hx
    cases hx
    beta_reduce
    cases hfound : d.fetched operation name (b.reply (.get ns (d.names.toBacking name)) s) with
    | error failure =>
      refine .refused fun e he hown => ?_
      rcases List.mem_append.mp he with he | he
      · rw [h e he] at hown
        cases hown
      · rw [List.mem_singleton.mp he]
        rfl
    | ok release => exact .checked h (fun _ he => nomatch he) hfound
  | refused => cases hx
  | checked hbefore hbetween hfound =>
    cases hx
    rw [List.append_assoc, List.cons_append]
    exact .acted hbefore hbetween (by simp) hfound
  | acted => cases hx

/-- A write of its own is the act, and its check stands before it in the log. -/
private theorem of_write (h : Stage d b operation ns name act finish log x) {write : Event σ Unit} (hmem : write ∈ log)
    (hown : write.actor = some ()) (hwrite : write.call.target? ≠ none) :
    write.call = act ∧ ∃ before s between after release,
      log = before ++ ⟨some (), .get ns (d.names.toBacking name), s⟩ :: (between ++ write :: after) ∧
      (∀ e ∈ between, e.actor = none) ∧
      d.fetched operation name (b.reply (.get ns (d.names.toBacking name)) s) = .ok release := by
  have hother {log : List (Event σ Unit)} (h : ∀ e ∈ log, e.actor = none) : write ∉ log := by
    intro hmem
    rw [h write hmem] at hown
    cases hown
  cases h with
  | begun h => exact absurd hmem (hother h)
  | refused h => exact absurd (h write hmem hown) hwrite
  | @checked before between s release hbefore hbetween hfound =>
    rcases List.mem_append.mp hmem with hmem | hmem
    · exact absurd hmem (hother hbefore)
    · rcases List.mem_cons.mp hmem with rfl | hmem
      · exact absurd rfl hwrite
      · exact absurd hmem (hother hbetween)
  | @acted before between after s s' release hbefore hbetween hafter hfound =>
    rcases List.mem_append.mp hmem with hmem | hmem
    · exact absurd hmem (hother hbefore)
    · rcases List.mem_cons.mp hmem with rfl | hmem
      · exact absurd rfl hwrite
      · rcases List.mem_append.mp hmem with hmem | hmem
        · exact absurd hmem (hother hbetween)
        · rcases List.mem_cons.mp hmem with rfl | hmem
          · exact ⟨rfl, before, s, between, after, release, rfl, hbetween, hfound⟩
          · exact absurd hmem (hother hafter)

end Stage

namespace ResourceDefinition

variable {σ : Type} {d : ResourceDefinition} {b : BackingStore σ} {ns name : String}

/-- In a log, a write comes after a check that has found a release of the type, and it finds the object that was
checked, or what the last call of another client that wrote it since then has left. -/
def Checked (d : ResourceDefinition) (b : BackingStore σ) (ns name : String) (log : List (Event σ Unit))
    (write : Event σ Unit) : Prop :=
  ∃ before check between after checked, log = before ++ check :: (between ++ write :: after) ∧
    check.actor = some () ∧ check.call = .get ns name ∧
    b.find? check.before ns name = some checked ∧ d.owns checked = true ∧
    (b.find? write.before ns name = some checked ∨
      ∃ earlier change later, between = earlier ++ change :: later ∧ change.actor = none ∧
        b.Writes change.call change.before ns name ∧ (∀ e ∈ later, ¬ b.Writes e.call e.before ns name) ∧
        b.find? write.before ns name = b.find? (b.after change.call change.before) ns name)

/-- What a guarded call writes in a shared store, and what it has checked before. -/
private theorem guarded_write (h : b.Keyed) {operation : Operation} {act : BackingCall}
    {finish : act.Answer → Except Failure ApplicationReply} {s : σ} {x : Shared σ (Except Failure ApplicationReply)}
    (hlinked : b.Linked s x.log x.store) (hstage : Stage d b operation ns name act finish x.log x.program)
    {write : Event σ Unit} (hmem : write ∈ x.log) (hown : write.actor = some ()) (hwrite : write.call.target? ≠ none) :
    write.call = act ∧ d.Checked b ns (d.names.toBacking name) x.log write := by
  obtain ⟨hact, before, s', between, after, release, hlog, hbetween, hfound⟩ := hstage.of_write hmem hown hwrite
  obtain ⟨record, hget, -, -⟩ := d.of_fetched hfound
  obtain ⟨checked, hchecked, -⟩ := h.get_stored hget
  have howns : d.owns checked = true := owns_of_fetched h hfound hchecked
  refine ⟨hact, before, _, between, after, checked, hlog, rfl, rfl, hchecked, howns, ?_⟩
  rw [hlog] at hlinked
  -- The check itself writes nothing, so the last write since then is one of those in between.
  obtain ⟨-, hhistory⟩ := BackingStore.linked_between hlinked
  rcases BackingStore.unwritten_or_left h hhistory ns (d.names.toBacking name) with
    ⟨-, hkept⟩ | ⟨earlier, change, later, hsplit, hchange, hlast, hleft⟩
  · left
    rw [hkept, h.elsewhere (by simp [BackingCall.target?])]
    exact hchecked
  · exact .inr ⟨earlier, change, later, hsplit, hbetween change (by simp [hsplit]), hchange, hlast, hleft⟩

/-- Before its first call, a deletion or a patch is a call that is guarded, or it is over. -/
private theorem stage_start (d : ResourceDefinition) (ns : String) {call : ApplicationCall} {act : BackingCall}
    (hcall : d.actOf ns call = some act) :
    ∃ operation name finish, call.name? = some name ∧ act.target? = some (ns, d.names.toBacking name) ∧
      Stage d b operation ns name act finish [] (d.action (some ns) call).run := by
  by_cases hns : ns = ""
  · have hrun := d.namespaceRequired_run (show (some ns).getD "" = "" from hns) call
    cases call with
    | patch name p =>
      cases hcall
      exact ⟨.patch, name, fun _ => .ok .gone, rfl, rfl, hrun ▸ .refused (by simp)⟩
    | delete name =>
      cases hcall
      exact ⟨.delete, name, fun _ => .ok .gone, rfl, rfl, hrun ▸ .refused (by simp)⟩
    | _ => cases hcall
  · cases call with
    | patch name p =>
      cases hcall
      rw [d.patch_guarded hns]
      exact ⟨.patch, name, _, rfl, rfl, .begun (by simp)⟩
    | delete name =>
      cases hcall
      rw [d.delete_guarded hns]
      exact ⟨.delete, name, _, rfl, rfl, .begun (by simp)⟩
    | _ => cases hcall

/-- A deletion or a patch writes only the record of the application, and only after it has found a release of the type
there.  What it then writes over or removes is the object that it has checked, or what another client has left in its
place in the meantime. -/
theorem writes_what_it_checked (h : b.Keyed) (d : ResourceDefinition) {call : ApplicationCall} {act : BackingCall}
    (hcall : d.actOf ns call = some act) (s : σ) (turns : List SharedTurn) :
    let log := (Shared.run b ⟨s, (d.action (some ns) call).run, []⟩ turns).log
    ∃ name, call.name? = some name ∧ act.target? = some (ns, d.names.toBacking name) ∧
      ∀ write ∈ log, write.actor = some () → write.call.target? ≠ none →
        write.call = act ∧ d.Checked b ns (d.names.toBacking name) log write := by
  intro log
  obtain ⟨operation, name, finish, hname, htarget, hstart⟩ := stage_start (b := b) d ns hcall
  have hlinked := Shared.linked_run (b := b) (s := s) (x := ⟨s, (d.action (some ns) call).run, []⟩) rfl turns
  have hstage := Shared.run_keeps (P := Stage d b operation ns name act finish) Stage.own
    (fun c s h => h.other c s) (x := ⟨s, (d.action (some ns) call).run, []⟩) hstart turns
  exact ⟨name, hname, htarget, fun write hmem hown hwrite => guarded_write h hlinked hstage hmem hown hwrite⟩

/-- A document that gives a release another chart. -/
def otherChartPatch : Patch :=
  .merge (.object [("spec", .object [("chart", .object [("spec", .object [("chart", .string "blog")])])])])

/-- A deletion, between whose steps another client gives the release another chart. -/
def overtakenDeletion : Shared {s : MemoryStore // s.Sound} (Except Failure ApplicationReply) :=
  Shared.run MemoryStore.backing
    ⟨MemoryStore.holding "tenant" webShop, (sampleType.action (some "tenant") (.delete "shop")).run, []⟩
    [.own, .other (.patch "tenant" "web-shop" otherChartPatch), .own]

/-- What this deletion removes is what the other client has left. -/
theorem overtaken_deletion_removes_the_change :
    ∃ write ∈ overtakenDeletion.log, write.actor = some () ∧ write.call = .delete "tenant" "web-shop" ∧
      ∃ change ∈ overtakenDeletion.log, change.actor = none ∧
        MemoryStore.backing.find? write.before "tenant" "web-shop" =
          MemoryStore.backing.find? (MemoryStore.backing.after change.call change.before) "tenant" "web-shop" := by
  have hact : sampleType.actOf "tenant" (.delete "shop") = some (.delete "tenant" "web-shop") := rfl
  obtain ⟨name, hname, -, hwrites⟩ := writes_what_it_checked MemoryStore.keyed_backing sampleType hact
    (MemoryStore.holding "tenant" webShop) [.own, .other (.patch "tenant" "web-shop" otherChartPatch), .own]
  cases hname
  obtain ⟨write, hmem, hown, hcall, j, hj, hforeign⟩ : ∃ write ∈ overtakenDeletion.log, write.actor = some () ∧
      write.call = .delete "tenant" "web-shop" ∧
      ∃ j, MemoryStore.backing.find? write.before "tenant" "web-shop" = some j ∧ sampleType.owns j = false :=
    ⟨_, .tail _ (.tail _ (.head _)), rfl, rfl, _, rfl, rfl⟩
  obtain ⟨-, before, check, between, after, checked, hlog, -, -, -, howns, hleft⟩ :=
    hwrites write hmem hown (by simp [hcall, BackingCall.target?])
  rcases hleft with hsame | ⟨earlier, change, later, rfl, hother, -, -, hleft⟩
  -- What is removed is not what was checked, since it is of another type.
  · cases hj.symm.trans hsame
    rw [howns] at hforeign
    cases hforeign
  · refine ⟨write, hmem, hown, hcall, change, ?_, hother, hleft⟩
    rw [overtakenDeletion, hlog]
    simp

/-- The check does not hold any more when the deletion is made: this one removes a release of another type. -/
theorem moved_release_is_deleted :
    ∃ write ∈ overtakenDeletion.log, write.actor = some () ∧ write.call = .delete "tenant" "web-shop" ∧
      (∃ j, MemoryStore.backing.find? write.before "tenant" "web-shop" = some j ∧ sampleType.owns j = false) ∧
      MemoryStore.backing.find? overtakenDeletion.store "tenant" "web-shop" = none :=
  ⟨_, .tail _ (.tail _ (.head _)), rfl, rfl, ⟨_, rfl, rfl⟩, rfl⟩

end ResourceDefinition

end AppGateway
