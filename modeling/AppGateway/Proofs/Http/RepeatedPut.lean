import AppGateway.Proofs.Backing.Memory
import AppGateway.Proofs.Gateway.Repeated
import AppGateway.Proofs.Http.FailureAnswers
import AppGateway.Proofs.Sample

/-!
# A request that puts an application is made twice

* (answer) `handle_put`: what a request that puts an application is answered;
* (main result) `repeated_put_changes_version_only`.
-/

namespace AppGateway

namespace Http

namespace Server

variable {σ : Type} {s : Server} {r : Request} {g v ns p name : String}

/-- What is answered to what came of a put. -/
def putAnswer (s : Server) (r : Request) (d : ResourceDefinition) :
    Except Failure (Application × Bool) → Response :=
  answered fun result => s.renderedApplication r d (if result.2 then 201 else 200) result.1

/-- A put of an item is handled by the update of its type. -/
theorem handle_put_eq (hroute : r.route? = some (.item g v ns p name)) (hput : r.method = "PUT") :
    s.handle r = onBody r (s.onType g v p fun d => s.put r d ns name) := by
  rw [handle_of_route? hroute (by rw [hput]; rfl) (by rw [hput]; decide), handleRoute, hput]
  rfl

theorem put_of_ok {d : ResourceDefinition} {app : Application} (happ : r.application = .ok app) (ns name : String) :
    s.put r d ns name = (d.update (some ns) name (fun _ => .ok app) true).run.andThen fun result =>
      .done (s.putAnswer r d result) := by
  rw [put, happ, respond_of_ok, respond_eq]
  rfl

/-- A request that puts an application is refused at once, or it is answered by what comes of the put. -/
theorem handle_put (hroute : r.route? = some (.item g v ns p name)) (hput : r.method = "PUT") :
    (∃ response : Response, s.handle r = .done response ∧ 400 ≤ response.status) ∨
      ∃ d app, s.resolve g v p = .ok d ∧ r.application = .ok app ∧
        s.handle r = (d.update (some ns) name (fun _ => .ok app) true).run.andThen fun result =>
          .done (s.putAnswer r d result) := by
  rw [handle_put_eq hroute hput, onBody]
  split
  · rw [onType]
    cases hresolve : s.resolve g v p with
    | error f => exact .inl ⟨failed f, rfl, (own_resolve g v p).code hresolve⟩
    | ok d =>
      dsimp only
      cases happ : r.application with
      | error f => exact .inl ⟨failed f, by rw [put, happ]; rfl, (own_readBody _ _).code happ⟩
      | ok app => exact .inr ⟨d, app, rfl, rfl, put_of_ok happ ns name⟩
  · exact .inl ⟨_, rfl, by decide⟩

variable {b : BackingStore σ} {issued : σ → String → Prop} {d : ResourceDefinition}

theorem putAnswer_of_error {f : Failure} {result : Except Failure (Application × Bool)} (h : result = .error f) :
    (s.putAnswer r d result).status = f.code := by
  rw [h]
  rfl

private theorem putAnswer_of_put {release : Release} {created : Bool} {version : String} {st : σ}
    {outcome : Except Failure (Application × Bool) × σ} (h : d.Put b ns name release created version st outcome) :
    s.putAnswer r d outcome.1 = s.renderedApplication r d (if created then 201 else 200)
      (d.toApplication (release.versioned version).settled) := by
  rw [putAnswer, h.shown]
  rfl

/-- A put that succeeds leaves nothing to be done for the same put.  What is written of an application over the release
that backs it is this release again.  So on a store that keeps what it is sent, and numbers its writes, a request that
puts an application without a version succeeds with 200 when it is made once more right after it has succeeded.  It then
sets nothing in the stored record but its version, and shows the same application with this version. -/
theorem repeated_put_changes_version_only (h : b.Faithful issued) :
    (∀ (d : ResourceDefinition) (app : Application) (record : Record) (e : Release), Release.ofRecord record = .ok e →
      d.toRelease app (some (d.toRelease app (some e))) = d.toRelease app (some e)) ∧
    ∀ (s : Server) (r : Request) (g v ns p name : String), r.route? = some (.item g v ns p name) → r.method = "PUT" →
      (∀ app, r.application = .ok app → app.metadata.resourceVersion = none) →
      ∀ st : σ,
        let first := (s.handle r).run b.answer st
        let second := (s.handle r).run b.answer first.2
        first.1.status < 400 →
          ∃ d shown stored version, s.resolve g v p = .ok d ∧
            first.1 = s.renderedApplication r d first.1.status shown ∧
            second.1.status = 200 ∧
            second.1 = s.renderedApplication r d 200
              { shown with metadata := { shown.metadata with resourceVersion := some version } } ∧
            b.find? first.2 ns (d.names.toBacking name) = some stored ∧
            b.contents second.2 ns = (b.contents first.2 ns).set (d.names.toBacking name)
              (MemoryStore.withVersion version stored) := by
  refine ⟨fun d app _ e _ => d.toRelease_toRelease app (some e), ?_⟩
  intro s r g v ns p name hroute hput hbody st first second hsucceeded
  rcases handle_put (s := s) hroute hput with ⟨response, hhandle, hcode⟩ | ⟨d, app, hresolve, happ, hhandle⟩
  · have hstatus : first.1.status = response.status := by simp only [first, hhandle, Exchange.run]
    exact absurd hcode (Nat.not_le_of_lt (hstatus ▸ hsucceeded))
  · have hrun : ∀ st, (s.handle r).run b.answer st =
        (s.putAnswer r d ((d.update (some ns) name (fun _ => .ok app) true).run.run b.answer st).1,
          ((d.update (some ns) name (fun _ => .ok app) true).run.run b.answer st).2) := by
      intro st
      rw [hhandle, Exchange.run_andThen]
      rfl
    have hfirst := hrun st
    have hsecond := hrun first.2
    rcases d.put_outcome app h ns name st with
      ⟨f, hfailed, hcode⟩ | ⟨hns, hfit, stored, version, hstored, hput⟩
    · have hstatus : first.1.status = f.code := by
        simp only [first, hfirst, putAnswer_of_error hfailed]
      exact absurd hcode (Nat.not_le_of_lt (hstatus ▸ hsucceeded))
    · let release := d.toRelease (app.addressedAs name ns) stored
      have hfind : b.find? first.2 ns (d.names.toBacking name) = some (release.versioned version).toJson := by
        simp only [first, hfirst, hput.find?, release]
      obtain ⟨version', hagain⟩ := ResourceDefinition.put_again h hns (hbody app happ) hfit hstored hfind
      have hanswer : first.1 = s.renderedApplication r d (if stored.isNone then 201 else 200)
          (d.toApplication (release.versioned version).settled) := by
        simp only [first, hfirst, putAnswer_of_put hput, release]
      have hanswer' : second.1 = s.renderedApplication r d 200
          (d.toApplication (release.versioned version').settled) := by
        simp only [second, hsecond, putAnswer_of_put hagain, release]
        rfl
      refine ⟨d, d.toApplication (release.versioned version).settled, (release.versioned version).toJson, version',
        hresolve, ?_, ?_, hanswer', hfind, ?_⟩
      · rw [hanswer, rendered_application_status]
      · rw [hanswer', rendered_application_status]
      · simp only [second, hsecond, hagain.contents, Release.withVersion_toJson, release]
        rfl

/-- A request that puts an application, for examples. -/
def samplePut : Request :=
  { sampleGet "tenant" "shop" with
    method := "PUT"
    body := (Json.object [("appVersion", .string "2"), ("spec", .object [("replicas", .int 3)])]).toText }

/-- A put over a release with labels of another writer. -/
theorem put_twice_over_labelled_release :
    let labelled := { webShop with metadata := { webShop.metadata with labels := some (.ofList [("team", "shop")]) } }
    let first := (sampleServer.handle samplePut).run MemoryStore.backing.answer (MemoryStore.holding "tenant" labelled)
    let second := (sampleServer.handle samplePut).run MemoryStore.backing.answer first.2
    first.1.status = 200 ∧ second.1.status = 200 := by
  intro labelled first second
  have hfirst : first.1.status = 200 := by decide +kernel
  have happ : ∀ app, samplePut.application = .ok app → app.metadata.resourceVersion = none := by
    have hread : samplePut.application.toOption.any (·.metadata.resourceVersion.isNone) = true := by decide +kernel
    intro app happ
    rw [happ] at hread
    exact Option.isNone_iff_eq_none.mp hread
  have hroute : samplePut.route? = some (.item apiGroup apiVersion "tenant" "webs" "shop") := by decide +kernel
  obtain ⟨-, hagain⟩ := repeated_put_changes_version_only MemoryStore.faithful_backing
  obtain ⟨d, shown, stored, version, -, -, hsecond, -⟩ :=
    hagain sampleServer samplePut _ _ _ _ _ hroute rfl happ (MemoryStore.holding "tenant" labelled)
      (show first.1.status < 400 by rw [hfirst]; decide)
  exact ⟨hfirst, hsecond⟩

end Server

end Http

end AppGateway
