import AppGateway.Proofs.Http.Served
import AppGateway.Proofs.Sample

/-!
# How failures are answered

What an operation gives is shown with the status 200 or 201 (`shown_status`), and its failure by a `Status` object that
has the code of the failure, which tells of an error unless the backing store has answered with an error that does not.

* `failures_are_told`: the answer to every request to a collection or an item of a namespace;
* `errors_told_as_success`: requests that fail and whose answer has no code of an error, or no `Status` object.
-/

namespace AppGateway

namespace Http

namespace Server

open Failure AppGateway.Action

variable {σ : Type} {s : Server} {r : Request} {place : Place}

/-! ### The failures of an operation -/

theorem own_resolve (g v p : String) : Own (s.resolve g v p) := by
  intro f hf
  obtain ⟨path, rfl⟩ := notFound_of_resolve hf
  rfl

theorem own_readBody {α : Type} (shape : Shape) (read : Json → Option α) : Own (r.readBody shape read) := by
  rw [Request.readBody]
  split
  · exact own_ok _
  · exact own_error rfl

private theorem own_patch : Own r.patch := by
  rw [Request.patch]
  split
  · exact (own_readBody _ _).map _
  · exact (own_readBody _ _).map _
  · exact (own_readBody _ _).map _
  · split
    · exact own_ok _
    · exact own_error rfl
  · exact own_error rfl

private theorem own_asked (name : Option String) : Own (r.asked name) := by
  cases name with
  | none =>
    rw [Request.asked]
    split
    · exact (own_readBody _ _).map _
    · exact own_ok _
  | some name =>
    rw [Request.asked]
    split
    · exact (own_readBody _ _).map _
    · exact own_patch.map _
    · exact own_ok _
    · exact own_ok _

/-- A request that updates puts the application in its body in place of whatever is there. -/
private theorem updater_of_asked {name : Option String} {target : String} {mayCreate : Bool}
    {updater : Option Application → Except Failure Application}
    (h : r.asked name = .ok (.call (.update target updater mayCreate))) : ∃ app, updater = fun _ => .ok app := by
  cases name with
  | none =>
    rw [Request.asked] at h
    split at h
    · obtain ⟨app, -, hcall⟩ := Except.of_map_eq_ok h
      cases hcall
    · have hcall := Except.ok.inj h
      split at hcall <;> cases hcall
  | some name =>
    rw [Request.asked] at h
    split at h
    · obtain ⟨app, -, hcall⟩ := Except.of_map_eq_ok h
      cases hcall
      exact ⟨app, rfl⟩
    · obtain ⟨p, -, hcall⟩ := Except.of_map_eq_ok h
      cases hcall
    · cases h
    · cases h

private theorem attempt_sourced (r : Request) (place : Place) (d : ResourceDefinition) : Sourced (r.attempt place d) :=
    by
  refine sourced_of_bind (own_asked place.name) fun asked hasked => ?_
  cases asked with
  | watch options => exact (d.watch_sourced (some place.ns) options).bind fun _ => sourced_pure _
  | call call =>
    refine (d.action_sourced (some place.ns) ?_).bind fun _ => sourced_pure _
    rintro name updater mayCreate rfl current
    obtain ⟨app, rfl⟩ := updater_of_asked hasked
    exact own_ok app

/-- The failures of an operation name no errors of the backing store but those that it has answered with. -/
private theorem operation_sourced (s : Server) (r : Request) (place : Place) : Sourced (s.operation r place) :=
  sourced_of_bind (own_resolve _ _ _) fun d _ => (attempt_sourced r place d).bind fun _ => sourced_pure _

/-! ### The answers -/

theorem rendered_application_status (d : ResourceDefinition) (status : Nat) (app : Application) :
    (s.renderedApplication r d status app).status = status := by
  rw [renderedApplication, rendered]
  split <;> rfl

private theorem rendered_list_status (d : ResourceDefinition) (status : Nat) (list : ApplicationList) :
    (s.rendered r d status list.toJson (.list list)).status = status := by
  rw [rendered]
  split <;> rfl

/-- What an operation gives is shown with a status of success. -/
theorem shown_status (d : ResourceDefinition) (given : Given) :
    (s.shown r place d given).status = 200 ∨ (s.shown r place d given).status = 201 := by
  cases given with
  | watched items => exact .inl rfl
  | reply reply =>
    cases reply with
    | one app =>
      rw [shown, rendered_application_status]
      cases place.name.isNone <;> simp
    | many list =>
      rw [shown, rendered_list_status]
      exact .inl rfl
    | stored app created =>
      rw [shown, rendered_application_status]
      cases created <;> simp
    | gone => exact .inl rfl

/-- What a request to a collection or an item of a namespace is answered.  One that does not reach its handler is
refused, with a status of 400 or more and before anything is asked of the backing store.  Else the answer, or its head
where only this is asked for, has the status 200 or 201 if the operation gives something.  If it fails, a `Status` object
tells of the failure, with a status of 400 or more unless the backing store has answered a call of the request with an
error that has the code that is passed on, which is below 400. -/
theorem failures_are_told {raw : Route} (hpath : Route.ofPath? r.target.path = some raw)
    (hplace : raw.place?.isSome = true) (answer : (c : BackingCall) → σ → c.Answer × σ) (st : σ) :
    (∃ response : Response, (∀ route, ¬ r.Reaches route) ∧ s.handle r = .done response ∧
        response.status ∈ [400, 405, 413]) ∨
      ∃ (route : Route) (place : Place) (response : Response), r.Reaches route ∧ route.place? = some place ∧
        ((s.handle r).run answer st).1 = headOnly r response ∧
        match ((s.operation r place).run.run answer st).1 with
        | .ok _ => response.status = 200 ∨ response.status = 201
        | .error f => response.Tells f.reason ∧ response.status = f.code ∧
            (400 ≤ f.code ∨ ∃ e, .api e ∈ (s.handle r).errors answer st ∧ f.code = e.code ∧
              100 ≤ e.code ∧ e.code < 400) := by
  by_cases hreaches : ∃ route, r.Reaches route
  · obtain ⟨route, hreaches⟩ := hreaches
    obtain ⟨place, hroute⟩ : ∃ place, route.place? = some place := by
      obtain ⟨raw', hpath', hdecoded⟩ := Request.of_route? hreaches.path
      rw [hpath] at hpath'
      cases hpath'
      rw [← (Route.decoded_spec hdecoded).2] at hplace
      exact Option.isSome_iff_exists.mp hplace
    have hhandle := handle_of_reaches (s := s) hreaches hroute
    have hrun : ((s.handle r).run answer st).1 =
        headOnly r (s.told r place ((s.operation r place).run.run answer st).1) := by
      rw [hhandle, Exchange.run_andThen]
      rfl
    have herrors : (s.handle r).errors answer st = (s.operation r place).run.errors answer st := by
      rw [hhandle, Exchange.errors_andThen, Exchange.errors, List.append_nil]
    refine .inr ⟨route, place, _, hreaches, hroute, hrun, ?_⟩
    cases hresult : ((s.operation r place).run.run answer st).1 with
    | ok given => exact shown_status given.1 given.2
    | error f =>
      refine ⟨failed_tells f, rfl, ?_⟩
      rcases f.code_cases with hcode | ⟨e, hsource, hcode, hlow, hhigh⟩
      · exact .inl hcode
      · rw [herrors]
        exact .inr ⟨e, operation_sourced s r place σ answer st f _ hresult hsource, hcode, hlow, hhigh⟩
  · rw [not_exists] at hreaches
    obtain ⟨response, hhandle, hstatus⟩ := handle_of_not_reaches (s := s) hpath hreaches
    exact .inl ⟨response, hreaches, hhandle, hstatus⟩

/-- Answers every call with an error that has a code, for examples. -/
def refusing (code : Nat) (c : BackingCall) (st : Unit) : c.Answer × Unit := (.error (.api { code }), st)

/-- The place of the application that `sampleGet "tenant" "shop"` asks for. -/
def samplePlace : Place := ⟨apiGroup, apiVersion, "tenant", "webs", some "shop"⟩

/-- A conflict that the backing store reports is told with its code. -/
theorem conflict_is_told :
    let r := sampleGet "tenant" "shop"
    Route.ofPath? r.target.path = some (.item apiGroup apiVersion "tenant" "webs" "shop") ∧
      ∃ response : Response, ((sampleServer.handle r).run (refusing 409) ()).1 = headOnly r response ∧
        response.status = 409 ∧ response.Tells "InternalError" := by
  intro r
  have hpath : Route.ofPath? r.target.path = some (.item apiGroup apiVersion "tenant" "webs" "shop") := by
    decide +kernel
  have hreaches : r.Reaches (.item apiGroup apiVersion "tenant" "webs" "shop") :=
    Request.reaches_item (by decide +kernel) rfl
  refine ⟨hpath, ?_⟩
  rcases failures_are_told (s := sampleServer) hpath rfl (refusing 409) () with
    ⟨_, hnone, -⟩ | ⟨route, place, response, hroute, hplace, hrun, htold⟩
  · exact absurd hreaches (hnone _)
  · -- The request has one route, and this has one place.
    cases hroute.path.symm.trans hreaches.path
    cases hplace
    obtain ⟨htells, hstatus, -⟩ : response.Tells "InternalError" ∧ response.status = 409 ∧ _ := htold
    exact ⟨response, hrun, hstatus, htells⟩

/-- A request fails, and its answer has the status 200 that came with the error of the backing store.  Of the answer to a
request for the head only there is no body, a name that is not text is refused in words, and so is a method that is not
allowed, without any. -/
theorem errors_told_as_success :
    let r := sampleGet "tenant" "shop"
    (((sampleServer.operation r samplePlace).run.run (refusing 200) ()).1 =
        .error (.backingFailed .get "shop" (.api { code := 200 })) ∧
      ((sampleServer.handle r).run (refusing 200) ()).1.status = 200) ∧
    ((sampleServer.handle { r with method := "HEAD" }).run (refusing 404) ()).1.body = "" ∧
    ((sampleServer.handle (sampleGet "tenant" "%FF")).run (refusing 404) ()).1.contentType =
      some "text/plain; charset=utf-8" ∧
    ((sampleServer.handle { r with method := "POST" }).run (refusing 404) ()).1 =
      { status := 405, allow := some "GET,HEAD,PUT,PATCH,DELETE" } := by
  refine ⟨⟨rfl, by decide +kernel⟩, by decide +kernel, by decide +kernel, by decide +kernel⟩

end Server

end Http

end AppGateway
