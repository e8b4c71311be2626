import AppGateway.Http.Server
import AppGateway.Proofs.Gateway.Failures

/-!
# How requests are handled

A request reaches the handler of a route when the parameters in its path are text, the route allows its method, and the
query and the body can be read where they are (`Request.Reaches`).  A request for a route that does not is refused at
once, and the backing store is asked nothing (`Server.handle_of_not_reaches`).

A request that reaches a collection or an item of a namespace does two things, one after the other: it makes an
operation, `Server.operation`, which finds the type, reads the body and makes the call, and it shows what the operation
gives, by `Server.shown`, or how it failed (`Server.handle_of_reaches`).
-/

namespace AppGateway

namespace Exchange

variable {α β γ : Type}

private theorem andThen_assoc (e : Exchange α) (f : α → Exchange β) (g : β → Exchange γ) :
    (e.andThen f).andThen g = e.andThen fun a => (f a).andThen g := by
  induction e with
  | done a => rfl
  | call c next ih => exact congrArg (Exchange.call c) (funext ih)

@[simp]
theorem andThen_done (e : Exchange α) : e.andThen .done = e := by
  induction e with
  | done a => rfl
  | call c next ih => exact congrArg (Exchange.call c) (funext ih)

end Exchange

namespace Http

/-- Where a request to a collection or an item of a namespace points: at a type, a namespace, and an item by its name. -/
structure Place where
  group : String
  version : String
  ns : String
  plural : String
  name : Option String

namespace Route

/-- The group, the version and the plural in a path to a collection or an item. -/
def type? : Route → Option (String × String × String)
  | .clusterCollection g v p => some (g, v, p)
  | .collection g v _ p => some (g, v, p)
  | .item g v _ p _ => some (g, v, p)
  | _ => none

/-- The place of a collection or an item of a namespace. -/
def place? : Route → Option Place
  | .collection g v ns p => some ⟨g, v, ns, p, none⟩
  | .item g v ns p name => some ⟨g, v, ns, p, some name⟩
  | _ => none

/-- Whether a request to a route has its query read. -/
def readsQuery (method : String) : Route → Bool
  | .clusterCollection .. => true
  | .collection .. => method ≠ "POST"
  | _ => false

/-- Whether a request to a route has its body read. -/
def readsBody (method : String) : Route → Bool
  | .collection .. => method = "POST"
  | .item .. => method = "PUT" || method = "PATCH"
  | _ => false

/-- Decoding the parameters of a route does not make another kind of route of it. -/
theorem decoded_spec {route decoded : Route} (h : route.decoded = .ok decoded) :
    decoded.methods = route.methods ∧ decoded.place?.isSome = route.place?.isSome := by
  cases route with
  | health => cases h; exact ⟨rfl, rfl⟩
  | groups => cases h; exact ⟨rfl, rfl⟩
  | group g =>
    obtain ⟨_, -, h⟩ := Except.of_bind_eq_ok h
    cases h
    exact ⟨rfl, rfl⟩
  | version g v =>
    obtain ⟨_, -, h⟩ := Except.of_bind_eq_ok h
    obtain ⟨_, -, h⟩ := Except.of_bind_eq_ok h
    cases h
    exact ⟨rfl, rfl⟩
  | clusterCollection g v p =>
    obtain ⟨_, -, h⟩ := Except.of_bind_eq_ok h
    obtain ⟨_, -, h⟩ := Except.of_bind_eq_ok h
    obtain ⟨_, -, h⟩ := Except.of_bind_eq_ok h
    cases h
    exact ⟨rfl, rfl⟩
  | collection g v ns p =>
    obtain ⟨_, -, h⟩ := Except.of_bind_eq_ok h
    obtain ⟨_, -, h⟩ := Except.of_bind_eq_ok h
    obtain ⟨_, -, h⟩ := Except.of_bind_eq_ok h
    obtain ⟨_, -, h⟩ := Except.of_bind_eq_ok h
    cases h
    exact ⟨rfl, rfl⟩
  | item g v ns p name =>
    obtain ⟨_, -, h⟩ := Except.of_bind_eq_ok h
    obtain ⟨_, -, h⟩ := Except.of_bind_eq_ok h
    obtain ⟨_, -, h⟩ := Except.of_bind_eq_ok h
    obtain ⟨_, -, h⟩ := Except.of_bind_eq_ok h
    obtain ⟨_, -, h⟩ := Except.of_bind_eq_ok h
    cases h
    exact ⟨rfl, rfl⟩

end Route

/-- What a request asks of the type that it points at. -/
inductive Asked where
  | call (call : ApplicationCall)
  | watch (options : ListOptions)

/-- What the operation of a request gives. -/
inductive Given where
  | reply (reply : ApplicationReply)
  | watched (items : List WatchItem)

/-- The action of what is asked of a type in a namespace. -/
def Asked.action (d : ResourceDefinition) (ns : String) : Asked → Action Given
  | .call c => do return .reply (← d.action (some ns) c)
  | .watch options => do return .watched (← d.watch (some ns) options)

namespace Request

/-- The route of a request, its parameters decoded. -/
def route? (r : Request) : Option Route := (Route.ofPath? r.target.path).bind (·.decoded.toOption)

/-- A request reaches the handler of a route. -/
structure Reaches (r : Request) (route : Route) : Prop where
  path : r.route? = some route
  method : route.methods.contains r.method = true
  query : route.readsQuery r.method = true → (CollectionQuery.ofPairs? r.queryPairs).isSome = true
  body : route.readsBody r.method = true → r.body.utf8ByteSize ≤ Server.bodyLimit

/-- The query of a request, empty when it cannot be read. -/
def query (r : Request) : CollectionQuery := (CollectionQuery.ofPairs? r.queryPairs).getD {}

/-- What a request asks, once its body is read: of a collection, or of an item by its name. -/
def asked (r : Request) : Option String → Except Failure Asked
  | none =>
    if r.method = "POST" then r.application.map fun app => .call (.create app)
    else .ok (if r.query.isWatch then .watch r.query.options else .call (.list r.query.options))
  | some name =>
    match r.method with
    | "PUT" => r.application.map fun app => .call (.update name (fun _ => .ok app) true)
    | "PATCH" => r.patch.map fun p => .call (.patch name p)
    | "DELETE" => .ok (.call (.delete name))
    | _ => .ok (.call (.get name))

/-- Makes the call that a request asks of a type. -/
def attempt (r : Request) (place : Place) (d : ResourceDefinition) : Action Given := do
  let asked ← Action.of (r.asked place.name)
  asked.action d place.ns

variable {r : Request} {decoded : Route}

/-- A decoded route comes from the path of the request. -/
theorem of_route? (h : r.route? = some decoded) :
    ∃ route, Route.ofPath? r.target.path = some route ∧ route.decoded = .ok decoded := by
  obtain ⟨route, hpath, hdecoded⟩ := Option.bind_eq_some_iff.mp h
  refine ⟨route, hpath, ?_⟩
  cases h : route.decoded with
  | error parameter => simp [h, Except.toOption] at hdecoded
  | ok decoded => simpa [h, Except.toOption] using hdecoded

theorem route?_of_decoded {route : Route} (hpath : Route.ofPath? r.target.path = some route)
    (hdecoded : route.decoded = .ok decoded) : r.route? = some decoded := by
  rw [route?, hpath, Option.bind_some, hdecoded]
  rfl

theorem reaches_item {g v ns p name : String} (hpath : r.route? = some (.item g v ns p name))
    (hget : r.method = "GET") : r.Reaches (.item g v ns p name) where
  path := hpath
  method := by rw [hget]; rfl
  query := by intro h; cases h
  body := by intro h; rw [hget] at h; cases h

end Request

/-- A response that tells of a failure: a `Status` object that has the status code of the response. -/
structure Response.Tells (response : Response) (reason : String) : Prop where
  contentType : response.contentType = some "application/json"
  body : ∃ status : Json, response.body = status.toText ∧ status.member? "kind" = some (.string "Status") ∧
    status.member? "status" = some (.string "Failure") ∧ status.member? "reason" = some (.string reason) ∧
    status.member? "code" = some (.int response.status)

namespace Server

variable {α β : Type} {s : Server} {r : Request}

/-- The answer to a failure tells its code and its reason. -/
theorem failed_tells (f : Failure) : (failed f).Tells f.reason :=
  ⟨rfl, f.toStatus, rfl, rfl, rfl, rfl, rfl⟩

/-- The answer to what came of an action. -/
def answered (answer : α → Response) : Except Failure α → Response
  | .ok a => answer a
  | .error f => failed f

/-- What answers a request is made of the result of its action. -/
theorem respond_eq (action : Action α) (answer : α → Response) :
    respond action answer = action.run.andThen fun result => .done (answered answer result) := by
  show Exchange.andThen _ _ = _
  congr 1
  funext result
  cases result <;> rfl

private theorem respond_map (action : Action α) (f : α → β) (answer : β → Response) :
    respond (action >>= fun a => pure (f a)) answer = respond action fun a => answer (f a) := by
  rw [respond_eq, respond_eq, Action.run_bind, Exchange.andThen_assoc]
  congr 1
  funext result
  cases result <;> rfl

theorem respond_of_ok (a : α) (k : α → Action β) (answer : β → Response) :
    respond (Action.of (.ok a) >>= k) answer = respond (k a) answer := rfl

@[simp]
theorem headOnly_status (r : Request) (response : Response) : (headOnly r response).status = response.status := by
  rw [headOnly]
  split <;> rfl

theorem handle_eq {route decoded : Route} (hpath : Route.ofPath? r.target.path = some route)
    (hmethod : route.methods.contains r.method = true) (hdecoded : route.decoded = .ok decoded) :
    s.handle r = (s.handleRoute r decoded).andThen fun response => .done (headOnly r response) := by
  rw [handle, hpath]
  simp only [hmethod, hdecoded]
  rfl

/-- A request that reaches its route is handled there; only the body is left out if the head alone is asked for. -/
theorem handle_eq_of_reaches {route : Route} (h : r.Reaches route) :
    s.handle r = (s.handleRoute r route).andThen fun response => .done (headOnly r response) := by
  obtain ⟨raw, hpath, hdecoded⟩ := Request.of_route? h.path
  have hmethod := h.method
  rw [(Route.decoded_spec hdecoded).1] at hmethod
  exact handle_eq hpath hmethod hdecoded

/-- A request whose method the route allows is handled there, and its answer is kept as it is unless only the head is
asked for. -/
theorem handle_of_route? {route : Route} (hroute : r.route? = some route)
    (hmethod : route.methods.contains r.method = true) (hhead : r.method ≠ "HEAD") :
    s.handle r = s.handleRoute r route := by
  obtain ⟨raw, hpath, hdecoded⟩ := Request.of_route? hroute
  rw [(Route.decoded_spec hdecoded).1] at hmethod
  have hwhole : headOnly r = id := funext fun response => if_neg hhead
  rw [handle_eq hpath hmethod hdecoded, hwhole]
  exact Exchange.andThen_done _

/-! ### Requests that reach no handler -/

private theorem handleRoute_of_unreadable {route : Route} (hreads : route.readsQuery r.method = true)
    (hquery : CollectionQuery.ofPairs? r.queryPairs = none) :
    ∃ text, s.handleRoute r route = .done (.text 400 text) := by
  cases route with
  | clusterCollection g v p => exact ⟨_, by rw [handleRoute, onQuery, hquery]⟩
  | collection g v ns p =>
    have hpost : r.method ≠ "POST" := of_decide_eq_true hreads
    exact ⟨_, by rw [handleRoute, if_neg hpost, onQuery, hquery]⟩
  | _ => cases hreads

private theorem handleRoute_of_tooLong {route : Route} (hreads : route.readsBody r.method = true)
    (hbody : ¬ r.body.utf8ByteSize ≤ bodyLimit) : ∃ text, s.handleRoute r route = .done (.text 413 text) := by
  have hrefused : ∀ answer, onBody r answer =
      .done (.text 413 "Failed to buffer the request body: length limit exceeded") := fun answer => if_neg hbody
  cases route with
  | collection g v ns p =>
    have hpost : r.method = "POST" := of_decide_eq_true hreads
    exact ⟨_, by rw [handleRoute, if_pos hpost, hrefused]⟩
  | item g v ns p name =>
    rcases Bool.or_eq_true_iff.mp hreads with hput | hpatch
    · have hput : r.method = "PUT" := of_decide_eq_true hput
      exact ⟨_, by simp only [handleRoute, hput, hrefused]; rfl⟩
    · have hpatch : r.method = "PATCH" := of_decide_eq_true hpatch
      exact ⟨_, by simp only [handleRoute, hpatch, hrefused]; rfl⟩
  | _ => cases hreads

/-- A request for a route that does not reach its handler is refused, and the backing store is asked nothing. -/
theorem handle_of_not_reaches {raw : Route} (hpath : Route.ofPath? r.target.path = some raw)
    (h : ∀ route, ¬ r.Reaches route) :
    ∃ response : Response, s.handle r = .done response ∧ response.status ∈ [400, 405, 413] := by
  cases hmethod : raw.methods.contains r.method with
  | false =>
    refine ⟨{ status := 405, allow := some (String.intercalate "," raw.methods) }, ?_, by simp⟩
    rw [handle, hpath]
    simp only [hmethod]
    rfl
  | true =>
    cases hdecoded : raw.decoded with
    | error name =>
      refine ⟨headOnly r (.text 400 ("Invalid URL: Invalid UTF-8 in \x60" ++ name ++ "\x60")), ?_, ?_⟩
      · rw [handle, hpath]
        simp only [hmethod, hdecoded]
        rfl
      · simp [Response.text]
    | ok route =>
      -- The query or the body cannot be read.
      rw [handle_eq hpath hmethod hdecoded]
      by_cases hquery : route.readsQuery r.method = true → (CollectionQuery.ofPairs? r.queryPairs).isSome = true
      · by_cases hbody : route.readsBody r.method = true → r.body.utf8ByteSize ≤ bodyLimit
        · exact absurd ⟨Request.route?_of_decoded hpath hdecoded,
            (Route.decoded_spec hdecoded).1 ▸ hmethod, hquery, hbody⟩ (h route)
        · obtain ⟨hreads, hbody⟩ := Classical.not_imp.mp hbody
          obtain ⟨text, htext⟩ := handleRoute_of_tooLong (s := s) hreads hbody
          rw [htext]
          exact ⟨_, rfl, by simp [Response.text]⟩
      · obtain ⟨hreads, hquery⟩ := Classical.not_imp.mp hquery
        obtain ⟨text, htext⟩ := handleRoute_of_unreadable (s := s) hreads (Option.not_isSome_iff_eq_none.mp hquery)
        rw [htext]
        exact ⟨_, rfl, by simp [Response.text]⟩

/-! ### Requests to a collection or an item of a namespace -/

/-- The operation of a request: it finds the type, reads the body and makes the call. -/
def operation (s : Server) (r : Request) (place : Place) : Action (ResourceDefinition × Given) := do
  let d ← Action.of (s.resolve place.group place.version place.plural)
  return (d, ← r.attempt place d)

/-- How what the operation of a request gives is shown. -/
def shown (s : Server) (r : Request) (place : Place) (d : ResourceDefinition) : Given → Response
  | .reply (.one app) => s.renderedApplication r d (if place.name.isNone then 201 else 200) app
  | .reply (.many list) => s.rendered r d 200 list.toJson (.list list)
  | .reply (.stored app created) => s.renderedApplication r d (if created then 201 else 200) app
  | .reply .gone => .json 200 (deletedStatus place.plural (place.name.getD ""))
  | .watched items => .lines ((Session.onItems d items s.shutdown).events.map ApplicationEvent.toJson)

/-- What is answered, whatever came of the operation of a request. -/
def told (s : Server) (r : Request) (place : Place) : Except Failure (ResourceDefinition × Given) → Response :=
  answered fun given => s.shown r place given.1 given.2

/-- A handler that reads a body and then makes a call answers as the attempt does, if the call asks the same. -/
theorem respond_attempt {d : ResourceDefinition} {place : Place} {body : Except Failure α} {k : α → Asked}
    {call : α → Action β} {answer : β → Response} (hasked : r.asked place.name = body.map k)
    (hcall : ∀ a, respond (call a) answer = respond ((k a).action d place.ns) (s.shown r place d)) :
    respond (Action.of body >>= call) answer = respond (r.attempt place d) (s.shown r place d) := by
  rw [Request.attempt, hasked]
  cases body with
  | error f => rfl
  | ok a => exact hcall a

private theorem create_eq (d : ResourceDefinition) (place : Place) (hname : place.name = none)
    (hpost : r.method = "POST") : s.create r d place.ns = respond (r.attempt place d) (s.shown r place d) := by
  have hasked : r.asked place.name = r.application.map fun app => .call (.create app) := by
    rw [hname, Request.asked, if_pos hpost]
  refine respond_attempt hasked fun app => ?_
  rw [Asked.action, respond_map, ResourceDefinition.action, respond_map]
  simp only [shown, hname, Option.isNone_none, if_true]

private theorem put_eq (d : ResourceDefinition) (place : Place) {name : String} (hname : place.name = some name)
    (hput : r.method = "PUT") : s.put r d place.ns name = respond (r.attempt place d) (s.shown r place d) := by
  have hasked : r.asked place.name = r.application.map fun app => .call (.update name (fun _ => .ok app) true) := by
    simp only [hname, Request.asked, hput]
  refine respond_attempt hasked fun app => ?_
  rw [Asked.action, respond_map, ResourceDefinition.action, respond_map]
  simp only [shown]

private theorem patch_eq (d : ResourceDefinition) (place : Place) {name : String} (hname : place.name = some name)
    (hpatch : r.method = "PATCH") : s.patch r d place.ns name = respond (r.attempt place d) (s.shown r place d) := by
  have hasked : r.asked place.name = r.patch.map fun p => .call (.patch name p) := by
    simp only [hname, Request.asked, hpatch]
  refine respond_attempt hasked fun p => ?_
  rw [Asked.action, respond_map, ResourceDefinition.action, respond_map]
  simp only [shown, hname, Option.isNone_some, Bool.false_eq_true, if_false]

private theorem delete_eq (d : ResourceDefinition) (place : Place) {name : String} (hname : place.name = some name)
    (hdelete : r.method = "DELETE") :
    delete d place.ns place.plural name = respond (r.attempt place d) (s.shown r place d) := by
  have hasked : r.asked place.name = (Except.ok ()).map fun _ => .call (.delete name) := by
    simp only [hname, Request.asked, hdelete]
    rfl
  rw [delete, ← respond_of_ok () fun _ => d.delete (some place.ns) name]
  refine respond_attempt hasked fun _ => ?_
  rw [Asked.action, respond_map, ResourceDefinition.action, respond_map]
  simp only [shown, hname, Option.getD_some]

private theorem get_eq (d : ResourceDefinition) (place : Place) {name : String} (hname : place.name = some name)
    (hput : r.method ≠ "PUT") (hpatch : r.method ≠ "PATCH") (hdelete : r.method ≠ "DELETE") :
    s.get r d place.ns name = respond (r.attempt place d) (s.shown r place d) := by
  have hasked : r.asked place.name = (Except.ok ()).map fun _ => .call (.get name) := by
    simp only [hname, Request.asked]
    rfl
  rw [get, ← respond_of_ok () fun _ => d.get (some place.ns) name]
  refine respond_attempt hasked fun _ => ?_
  rw [Asked.action, respond_map, ResourceDefinition.action, respond_map]
  simp only [shown, hname, Option.isNone_some, Bool.false_eq_true, if_false]

private theorem list_or_watch_eq (d : ResourceDefinition) (place : Place) (hname : place.name = none)
    (hpost : r.method ≠ "POST") {q : CollectionQuery} (hq : CollectionQuery.ofPairs? r.queryPairs = some q) :
    (if q.isWatch then s.watch d place.ns q else s.list r d place.ns q) =
      respond (r.attempt place d) (s.shown r place d) := by
  have hquery : r.query = q := by rw [Request.query, hq, Option.getD_some]
  have hasked : r.asked place.name =
      (Except.ok ()).map fun _ => if q.isWatch then .watch q.options else .call (.list q.options) := by
    rw [hname, Request.asked, if_neg hpost, hquery]
    rfl
  by_cases hwatch : q.isWatch = true
  · rw [if_pos hwatch, watch, ← respond_of_ok () fun _ => d.watch (some place.ns) q.options]
    refine respond_attempt hasked fun _ => ?_
    rw [if_pos hwatch, Asked.action, respond_map]
    simp only [shown]
  · rw [if_neg hwatch, list, ← respond_of_ok () fun _ => d.list (some place.ns) q.options]
    refine respond_attempt hasked fun _ => ?_
    rw [if_neg hwatch, Asked.action, respond_map, ResourceDefinition.action, respond_map]
    simp only [shown]

/-- A request that reaches a collection or an item of a namespace is answered by the type that it points at. -/
theorem handleRoute_eq_onType {route : Route} {place : Place} (h : r.Reaches route)
    (hplace : route.place? = some place) :
    s.handleRoute r route = s.onType place.group place.version place.plural fun d =>
      respond (r.attempt place d) (s.shown r place d) := by
  cases route with
  | collection g v ns p =>
    cases hplace
    by_cases hpost : r.method = "POST"
    · have hbody := h.body (decide_eq_true hpost)
      rw [handleRoute, if_pos hpost, onBody, if_pos hbody]
      exact congrArg (s.onType g v p) (funext fun d => create_eq d ⟨g, v, ns, p, none⟩ rfl hpost)
    · obtain ⟨q, hq⟩ := Option.isSome_iff_exists.mp (h.query (decide_eq_true hpost))
      rw [handleRoute, if_neg hpost, onQuery, hq]
      exact congrArg (s.onType g v p) (funext fun d => list_or_watch_eq d ⟨g, v, ns, p, none⟩ rfl hpost hq)
  | item g v ns p name =>
    cases hplace
    rw [handleRoute]
    split
    · rename_i hput
      rw [onBody, if_pos (h.body (by rw [Route.readsBody, hput]; rfl))]
      exact congrArg (s.onType g v p) (funext fun d => put_eq d ⟨g, v, ns, p, some name⟩ rfl hput)
    · rename_i hpatch
      rw [onBody, if_pos (h.body (by rw [Route.readsBody, hpatch]; rfl))]
      exact congrArg (s.onType g v p) (funext fun d => patch_eq d ⟨g, v, ns, p, some name⟩ rfl hpatch)
    · rename_i hdelete
      exact congrArg (s.onType g v p) (funext fun d => delete_eq d ⟨g, v, ns, p, some name⟩ rfl hdelete)
    · rename_i hput hpatch hdelete
      exact congrArg (s.onType g v p) (funext fun d => get_eq d ⟨g, v, ns, p, some name⟩ rfl hput hpatch hdelete)
  | _ => cases hplace

/-- A request that reaches a collection or an item of a namespace is answered by what came of its operation. -/
theorem handle_of_reaches {route : Route} {place : Place} (h : r.Reaches route) (hplace : route.place? = some place) :
    s.handle r = (s.operation r place).run.andThen fun result => .done (headOnly r (s.told r place result)) := by
  have hroute : s.handleRoute r route =
      (s.operation r place).run.andThen fun result => .done (s.told r place result) := by
    rw [handleRoute_eq_onType h hplace, onType, told, ← respond_eq, operation]
    cases s.resolve place.group place.version place.plural with
    | error f => rfl
    | ok d => rw [respond_of_ok, respond_map]
  rw [handle_eq_of_reaches h, hroute, Exchange.andThen_assoc]
  rfl

end Server

end Http

end AppGateway
