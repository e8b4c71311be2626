import AppGateway.Proofs.Backing.Merging
import AppGateway.Proofs.Gateway.Atomic
import AppGateway.Proofs.Gateway.CheckedWrite
import AppGateway.Proofs.Resource.Merged
import AppGateway.Proofs.Sample

/-!
# What a merge patch leaves

A patch is passed on as it is, once the release of the application is found; its paths are those of the release.  What
it leaves is not checked any more.  So a document may give the release another chart, and then the application is gone
although the patch has succeeded, or it may leave what is no release at all, and then the patch has failed although it
was made.

* (guarded calls) `run_guarded`: a check and a write, in one go;
* (reach) `Reaches`, `Misses`: whether the calls of a name come to the record; `reaches_of_stored` and
  `misses_of_stored` tell this by the record that is stored;
* (outcome) `patch_outcome`: a patch has changed nothing and failed, or it has merged its document; `of_failed_patch`,
  `of_done_patch`: what one that failed and one that succeeded have left;
* (main result) `merge_patch_result`: this, and that the application is there after a patch whose document spares the
  chart;
* `patch_breaks_or_hides`: both happen otherwise.
-/

namespace AppGateway

namespace ResourceDefinition

variable {σ : Type} {d : ResourceDefinition} {b : BackingStore σ} {s s' : σ} {ns name : String}

/-! ### Guarded calls -/

section

variable {operation : Operation} {act : BackingCall} (finish : act.Answer → Except Failure ApplicationReply)

private theorem run_guarded (s : σ) :
    (d.guarded operation ns name act finish).run b.answer s =
      Exchange.run b.answer
        (match d.fetched operation name (b.reply (.get ns (d.names.toBacking name)) s) with
        | .error failure => .done (.error failure)
        | .ok _ => .call act fun answer => .done (finish answer))
        (b.after (.get ns (d.names.toBacking name)) s) := rfl

private theorem run_guarded_of_error {failure : Failure}
    (h : d.fetched operation name (b.reply (.get ns (d.names.toBacking name)) s) = .error failure) :
    (d.guarded operation ns name act finish).run b.answer s =
      (.error failure, b.after (.get ns (d.names.toBacking name)) s) := by
  rw [run_guarded, h]
  rfl

private theorem run_guarded_of_ok {release : Release}
    (h : d.fetched operation name (b.reply (.get ns (d.names.toBacking name)) s) = .ok release) :
    (d.guarded operation ns name act finish).run b.answer s =
      (finish (b.reply act (b.after (.get ns (d.names.toBacking name)) s)),
        b.after act (b.after (.get ns (d.names.toBacking name)) s)) := by
  rw [run_guarded, h]
  rfl

end

/-! ### Reach -/

/-- The calls of a name come to its record: a get gives the application, and a patch and a deletion get as far as their
write, and give what this is answered. -/
structure Reaches (d : ResourceDefinition) (b : BackingStore σ) (ns name : String) (s : σ) (app : Application) :
    Prop where
  get : (d.perform b (some ns) (.get name) s).1 = .ok (.one app)
  patch : ∀ p, d.perform b (some ns) (.patch name p) s =
    ((d.projected .patch name (b.reply (.patch ns (d.names.toBacking name) p)
        (b.after (.get ns (d.names.toBacking name)) s))).map .one,
      b.after (.patch ns (d.names.toBacking name) p) (b.after (.get ns (d.names.toBacking name)) s))
  delete : d.perform b (some ns) (.delete name) s =
    (((b.reply (.delete ns (d.names.toBacking name)) (b.after (.get ns (d.names.toBacking name)) s)).mapError
        (Failure.ofBacking .delete name)).map fun _ => .gone,
      b.after (.delete ns (d.names.toBacking name)) (b.after (.get ns (d.names.toBacking name)) s))

/-- The calls of a name do not come to a record: each is answered that there is none, and changes nothing. -/
structure Misses (d : ResourceDefinition) (b : BackingStore σ) (ns name : String) (s : σ) : Prop where
  get : d.perform b (some ns) (.get name) s =
    (.error (.notFound d.groupResource name), b.after (.get ns (d.names.toBacking name)) s)
  patch : ∀ p, d.perform b (some ns) (.patch name p) s =
    (.error (.notFound d.groupResource name), b.after (.get ns (d.names.toBacking name)) s)
  delete : d.perform b (some ns) (.delete name) s =
    (.error (.notFound d.groupResource name), b.after (.get ns (d.names.toBacking name)) s)
  unchanged : b.contents (b.after (.get ns (d.names.toBacking name)) s) = b.contents s

section

variable {j : Json} {record : Record} {r : Release}

theorem reaches_of_stored (h : b.Merging) (hns : ns ≠ "") (hj : b.find? s ns (d.names.toBacking name) = some j)
    (hrecord : Record.ofJson? j = some record) (hr : Release.ofRecord record = .ok r) (hscope : d.inScope r = true) :
    d.Reaches b ns name s (d.toApplication r) := by
  have hget := h.get_present hj hrecord
  have hfetched (operation : Operation) :
      d.fetched operation name (b.reply (.get ns (d.names.toBacking name)) s) = .ok r := by
    rw [hget]
    exact fetched_of_ofRecord hr hscope
  refine ⟨?_, fun p => ?_, ?_⟩
  · rw [perform_get b hns, hfetched]
    rfl
  · rw [perform, patch_guarded d hns, run_guarded_of_ok _ (hfetched .patch)]
  · rw [perform, delete_guarded d hns, run_guarded_of_ok _ (hfetched .delete)]

theorem misses_of_stored (h : b.Merging) (hns : ns ≠ "") (hj : b.find? s ns (d.names.toBacking name) = some j)
    (hrecord : Record.ofJson? j = some record) (hr : Release.ofRecord record = .ok r) (hscope : d.inScope r = false) :
    d.Misses b ns name s := by
  have hget := h.get_present hj hrecord
  have hfetched (operation : Operation) : d.fetched operation name (b.reply (.get ns (d.names.toBacking name)) s) =
      .error (.notFound d.groupResource name) := by
    rw [hget]
    exact d.fetched_of_out_of_scope hr hscope
  refine ⟨?_, fun p => ?_, ?_, h.contents_after_get s ns _⟩
  · rw [perform_get b hns, hfetched]
    rfl
  · rw [perform, patch_guarded d hns, run_guarded_of_error _ (hfetched .patch)]
  · rw [perform, delete_guarded d hns, run_guarded_of_error _ (hfetched .delete)]

end

/-! ### Outcome -/

private theorem projected_of_ofRecord {operation : Operation} {record : Record} {r : Release}
    (hr : Release.ofRecord record = .ok r) : d.projected operation name (.ok record) = .ok (d.toApplication r) := by
  rw [projected, Except.mapError_ok, Except.ok_bind, project, readRelease, hr]
  rfl

private theorem projected_of_fault {operation : Operation} {record : Record} {fault : Fault}
    (hr : Release.ofRecord record = .error fault) :
    d.projected operation name (.ok record) = .error (.conversion operation name fault.message) := by
  rw [projected, Except.mapError_ok, Except.ok_bind, project, readRelease, hr]
  rfl

/-- The object of an application, which can be read as a release of the type. -/
def Holds (d : ResourceDefinition) (j : Json) (r : Release) : Prop :=
  ∃ record, Record.ofJson? j = some record ∧ Release.ofRecord record = .ok r ∧ d.inScope r = true

/-- A document was merged into the object of an application, and this record was left. -/
def Patched (d : ResourceDefinition) (b : BackingStore σ) (ns name : String) (document : Json) (s s' : σ)
    (merged : Record) : Prop :=
  ∃ version j release, b.Merged s s' ns (d.names.toBacking name) version j document merged ∧ d.Holds j release

section

variable {document : Json}

/-- A patch has failed and changed nothing, or it has merged its document into the object of the application. -/
theorem patch_outcome (h : b.Merging) (d : ResourceDefinition) (ns name : String) (document : Json) (s : σ) :
    let result := d.perform b (some ns) (.patch name (.merge document)) s
    (∃ failure, result.1 = .error failure ∧ b.contents result.2 = b.contents s) ∨
      ns ≠ "" ∧ ∃ merged, d.Patched b ns name document s result.2 merged ∧
        result.1 = (d.projected .patch name (.ok merged)).map .one := by
  intro result
  by_cases hns : ns = ""
  · have hresult : result = (.error (.namespaceRequired .patch), s) := by
      show ((d.action (some ns) (.patch name (.merge document))).run).run b.answer s = _
      rw [d.namespaceRequired_run (show (some ns).getD "" = "" from hns)]
      rfl
    exact .inl ⟨_, congrArg Prod.fst hresult, by rw [hresult]⟩
  have hkept := h.contents_after_get s ns (d.names.toBacking name)
  cases hfetched : d.fetched .patch name (b.reply (.get ns (d.names.toBacking name)) s) with
  | error failure =>
    have hresult : result = (.error failure, b.after (.get ns (d.names.toBacking name)) s) := by
      show ((d.action (some ns) (.patch name (.merge document))).run).run b.answer s = _
      rw [patch_guarded d hns, run_guarded_of_error _ hfetched]
    exact .inl ⟨failure, congrArg Prod.fst hresult, by rw [hresult, hkept]⟩
  | ok release =>
    let act : BackingCall := .patch ns (d.names.toBacking name) (.merge document)
    let mid := b.after (.get ns (d.names.toBacking name)) s
    have hresult : result = ((d.projected .patch name (b.reply act mid)).map .one, b.after act mid) := by
      show ((d.action (some ns) (.patch name (.merge document))).run).run b.answer s = _
      rw [patch_guarded d hns, run_guarded_of_ok _ hfetched]
    rw [hresult]
    cases hreply : b.reply act mid with
    | error e => exact .inl ⟨.ofBacking .patch name e, rfl, (h.error_keeps hreply).trans hkept⟩
    | ok merged =>
      obtain ⟨version, j, hmerged⟩ := h.merge_ok hreply
      have hmerged := hmerged.of_contents_eq hkept
      obtain ⟨record, hget, hrelease, hscope⟩ := d.of_fetched hfetched
      obtain ⟨-, j', hj', hrecord⟩ := h.get_ok hget
      -- What was checked is what the document was merged into.
      cases hmerged.found.symm.trans hj'
      exact .inr ⟨hns, merged, ⟨version, j, release, hmerged, record, hrecord, hrelease, hscope⟩, rfl⟩

theorem of_failed_patch (h : b.Merging) {failure : Failure}
    (hfailed : (d.perform b (some ns) (.patch name (.merge document)) s).1 = .error failure) :
    let s' := (d.perform b (some ns) (.patch name (.merge document)) s).2
    b.contents s' = b.contents s ∨ ∃ merged fault, d.Patched b ns name document s s' merged ∧
      Release.ofRecord merged = .error fault ∧ failure = .conversion .patch name fault.message := by
  rcases patch_outcome h d ns name document s with ⟨_, -, hkept⟩ | ⟨-, merged, hpatched, hresult⟩
  · exact .inl hkept
  · cases hread : Release.ofRecord merged with
    | error fault =>
      rw [projected_of_fault hread] at hresult
      cases hresult.symm.trans hfailed
      exact .inr ⟨merged, fault, hpatched, hread, rfl⟩
    | ok release =>
      rw [projected_of_ofRecord hread] at hresult
      cases hresult.symm.trans hfailed

theorem of_done_patch (h : b.Merging) {reply : ApplicationReply}
    (hok : (d.perform b (some ns) (.patch name (.merge document)) s).1 = .ok reply) :
    let s' := (d.perform b (some ns) (.patch name (.merge document)) s).2
    ∃ merged release, d.Patched b ns name document s s' merged ∧ Release.ofRecord merged = .ok release ∧
      reply = .one (d.toApplication release) ∧
      (d.inScope release = true → d.Reaches b ns name s' (d.toApplication release)) ∧
      (d.inScope release = false → d.Misses b ns name s') := by
  rcases patch_outcome h d ns name document s with ⟨failure, hfailed, -⟩ | ⟨hns, merged, hpatched, hresult⟩
  · cases hfailed.symm.trans hok
  · cases hread : Release.ofRecord merged with
    | error fault =>
      rw [projected_of_fault hread] at hresult
      cases hresult.symm.trans hok
    | ok release =>
      rw [projected_of_ofRecord hread] at hresult
      cases hresult.symm.trans hok
      have ⟨version, j, before, hmerged, _⟩ := hpatched
      exact ⟨merged, release, hpatched, hread, rfl,
        reaches_of_stored h hns hmerged.find?_self hmerged.answered hread,
        misses_of_stored h hns hmerged.find?_self hmerged.answered hread⟩

private theorem inScope_congr {r r' : Release} (h : r'.spec.chart = r.spec.chart) : d.inScope r' = d.inScope r := by
  rw [inScope, inScope, Release.chart?, Release.chart?, h]

/-- A document that spares the chart leaves the object of an application what it is. -/
private theorem Patched.of_spares {s' : σ} {patch : Members} {merged : Record} {held : Option StoredObject}
    (h : d.Patched b ns name (.object patch) s s' merged) (hspares : Json.SparesChart patch)
    (hheld : b.find? s ns (d.names.toBacking name) = held.map StoredObject.toJson) :
    ∃ release, Release.ofRecord merged = .ok release ∧ d.inScope release = true := by
  obtain ⟨version, j, before, hmerged, record, hrecord, hbefore, hscope⟩ := h
  obtain ⟨chart, source, hchart, -⟩ := inScope_iff.mp hscope
  obtain ⟨t, ht, -⟩ := Option.map_eq_some_iff.mp hchart
  obtain ⟨o, -, rfl⟩ := Option.map_eq_some_iff.mp (hheld.symm.trans hmerged.found)
  obtain ⟨release, hrelease, hsame⟩ := Release.ofRecord_of_merge hspares hrecord hbefore ht hmerged.answered
  exact ⟨release, hrelease, (inScope_congr hsame).trans hscope⟩

/-- A patch that fails has changed nothing, unless the document has left what is no release, and then that is what it
tells.  One that succeeds gives what is shown of the release that the document has left; the calls of its name come to
this release from then on, unless it is of another type, and then there is no such application any more.  A document
that spares the chart never leaves what is no release, or one of another type. -/
theorem merge_patch_result (h : b.Merging) (d : ResourceDefinition) (ns name : String) (document : Json) (s : σ) :
    let result := d.perform b (some ns) (.patch name (.merge document)) s
    (∀ failure, result.1 = .error failure → b.contents result.2 = b.contents s ∨
      ∃ merged fault, d.Patched b ns name document s result.2 merged ∧
        Release.ofRecord merged = .error fault ∧ failure = .conversion .patch name fault.message) ∧
    (∀ reply, result.1 = .ok reply → ∃ merged release, d.Patched b ns name document s result.2 merged ∧
      Release.ofRecord merged = .ok release ∧ reply = .one (d.toApplication release) ∧
        (d.inScope release = true → d.Reaches b ns name result.2 (d.toApplication release)) ∧
        (d.inScope release = false → d.Misses b ns name result.2)) ∧
    ∀ (patch : Members) (held : Option StoredObject), document = .object patch → Json.SparesChart patch →
      b.find? s ns (d.names.toBacking name) = held.map StoredObject.toJson →
      (∀ failure, result.1 = .error failure → b.contents result.2 = b.contents s) ∧
      ∀ reply, result.1 = .ok reply → ∃ app, reply = .one app ∧ d.Reaches b ns name result.2 app := by
  refine ⟨fun failure => of_failed_patch h, fun reply => of_done_patch h, ?_⟩
  rintro patch held rfl hspares hheld
  refine ⟨fun failure hfailed => ?_, fun reply hok => ?_⟩
  · rcases of_failed_patch h hfailed with hkept | ⟨merged, fault, hpatched, hread, -⟩
    · exact hkept
    · obtain ⟨release, hrelease, -⟩ := hpatched.of_spares hspares hheld
      cases hread.symm.trans hrelease
  · obtain ⟨merged, release, hpatched, hread, hreply, hreaches, -⟩ := of_done_patch h hok
    obtain ⟨release', hrelease', hscope⟩ := hpatched.of_spares hspares hheld
    cases hread.symm.trans hrelease'
    exact ⟨_, hreply, hreaches hscope⟩

end

/-- A document that sets the values of a release. -/
def valuesDocument : Members :=
  [("spec", .object [("values", .object [("size", .int 3)])])]

private theorem spares_valuesDocument : Json.SparesChart valuesDocument where
  others := by simp [Members.Avoids, valuesDocument, Json.spared]
  spec v hv := by
    cases List.mem_singleton.mp hv
    exact ⟨_, rfl, by simp [Members.Avoids]⟩

/-- The object of the application that is patched. -/
private def shopObject : StoredObject where
  members := (webShop.versioned "100").members
  ordered := Members.ordered_of_sublist (.refl _) (by decide)
  spec_ordered spec hspec := by
    cases hspec
    exact Members.ordered_of_sublist (.refl _) (by decide)

private theorem find?_shopStore :
    MemoryStore.undoing.find? shopStore "tenant" "web-shop" = (some shopObject).map StoredObject.toJson := rfl

/-- The values that a patch sets are shown by a get after it. -/
theorem values_patch_is_shown :
    let result := sampleType.perform MemoryStore.undoing (some "tenant")
      (.patch "shop" (.merge (.object valuesDocument))) shopStore
    ∃ app, result.1 = .ok (.one app) ∧ app.spec = some (.object [("size", .int 3)]) ∧
      (sampleType.perform MemoryStore.undoing (some "tenant") (.get "shop") result.2).1 = .ok (.one app) := by
  intro result
  obtain ⟨app, hok, hspec⟩ : ∃ app, result.1 = .ok (.one app) ∧ app.spec = some (.object [("size", .int 3)]) :=
    ⟨_, rfl, rfl⟩
  obtain ⟨-, -, hspares⟩ := merge_patch_result MemoryStore.merging_undoing sampleType "tenant" "shop"
    (.object valuesDocument) shopStore
  obtain ⟨-, hshown⟩ := hspares _ (some shopObject) rfl spares_valuesDocument find?_shopStore
  obtain ⟨app', happ', hreaches⟩ := hshown _ hok
  cases happ'
  exact ⟨app, hok, hspec, hreaches.get⟩

/-- A document that leaves no release, since its chart is a number. -/
def numberAsChart : Json := .object [("spec", .object [("chart", .int 5)])]

/-- A document may say what leaves no release, and then the patch fails and has changed the record; or it may give the
release another chart, and then the patch succeeds and the application is gone. -/
theorem patch_breaks_or_hides :
    MemoryStore.undoing.Merging ∧
      (∃ app, (sampleType.perform MemoryStore.undoing (some "tenant") (.get "shop") shopStore).1 = .ok (.one app)) ∧
      (let broken := sampleType.perform MemoryStore.undoing (some "tenant") (.patch "shop" (.merge numberAsChart))
        shopStore
      (∃ failure, broken.1 = .error failure) ∧
        MemoryStore.undoing.contents broken.2 ≠ MemoryStore.undoing.contents shopStore) ∧
      let hidden := sampleType.perform MemoryStore.undoing (some "tenant") (.patch "shop" otherChartPatch) shopStore
      (∃ app, hidden.1 = .ok (.one app)) ∧
        (sampleType.perform MemoryStore.undoing (some "tenant") (.get "shop") hidden.2).1 =
          .error (.notFound sampleType.groupResource "shop") := by
  refine ⟨MemoryStore.merging_undoing, ⟨_, rfl⟩, ⟨⟨_, rfl⟩, fun hkept => ?_⟩, ⟨_, rfl⟩, rfl⟩
  have hversion := congrArg (·.map storedVersion) (BackingStore.find?_of_contents_eq hkept "tenant" "web-shop")
  exact absurd hversion (by decide)

end ResourceDefinition

end AppGateway
