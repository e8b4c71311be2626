import AppGateway.Proofs.Gateway.Created
import AppGateway.Proofs.Gateway.ReadPaths
import AppGateway.Proofs.Http.RepeatedPut
import AppGateway.Proofs.Sample

/-!
# Requests that create an application

An application is created by a request that posts it to the collection, and by a request that puts it where nothing is.

* (handling) `Twins.handled`: two such requests that bring the same application are refused for their length, or they
  are answered by what comes of a creation and of an update that may create;
* (main result) `put_creates_as_post`.
-/

namespace AppGateway

namespace Http

namespace Server

variable {σ : Type} {s : Server} {r : Request} {d : ResourceDefinition} {app : Application} {g v ns p n : String}

/-- What is answered to what came of a post. -/
def postAnswer (s : Server) (r : Request) (d : ResourceDefinition) : Except Failure Application → Response :=
  answered fun shown => s.renderedApplication r d 201 shown

private theorem handle_post_eq (hroute : r.route? = some (.collection g v ns p)) (hpost : r.method = "POST") :
    s.handle r = onBody r (s.onType g v p fun d => s.create r d ns) := by
  rw [handle_of_route? hroute (by rw [hpost]; rfl) (by rw [hpost]; decide), handleRoute, if_pos hpost]

private theorem create_of_ok (happ : r.application = .ok app) (ns : String) :
    s.create r d ns = (d.create (some ns) app).run.andThen fun result => .done (s.postAnswer r d result) := by
  rw [create, happ, respond_of_ok, respond_eq]
  rfl

/-- Two requests that bring the same application of a name: a post to the collection of a type that is served, and a
put to the item of this name. -/
structure Twins (s : Server) (post put : Request) (d : ResourceDefinition) (ns n : String) (app : Application) :
    Prop where
  paths : ∃ g v p, post.route? = some (.collection g v ns p) ∧ put.route? = some (.item g v ns p n) ∧
    s.resolve g v p = .ok d
  body : put.body = post.body
  application : post.application = .ok app
  name : app.name = n
  nonempty : n ≠ ""
  posts : post.method = "POST"
  puts : put.method = "PUT"

namespace Twins

variable {post put : Request}

/-- Either body is too long, or both are read. -/
theorem handled (t : Twins s post put d ns n app) :
    (∃ response : Response, s.handle post = .done response ∧ s.handle put = .done response ∧
        response.status = 413 ∧ bodyLimit < post.body.utf8ByteSize) ∨
      (s.handle post = (d.create (some ns) app).run.andThen fun result => .done (s.postAnswer post d result)) ∧
        s.handle put = (d.update (some ns) n (fun _ => .ok app) true).run.andThen fun result =>
          .done (s.putAnswer put d result) := by
  obtain ⟨g, v, p, hpost, hput, hresolve⟩ := t.paths
  have happ : put.application = .ok app := by rw [Request.application, Request.readBody, t.body]; exact t.application
  rw [handle_post_eq hpost t.posts, handle_put_eq hput t.puts, onBody, onBody, t.body]
  by_cases hlimit : post.body.utf8ByteSize ≤ bodyLimit
  · rw [if_pos hlimit, if_pos hlimit, onType, onType, hresolve]
    exact .inr ⟨create_of_ok t.application ns, put_of_ok happ ns n⟩
  · rw [if_neg hlimit, if_neg hlimit]
    exact .inl ⟨_, rfl, rfl, rfl, Nat.lt_of_not_le hlimit⟩

end Twins

variable {b : BackingStore σ} {post put : Request} {st : σ}

private theorem postAnswer_of_ok {result : Except Failure Application} {shown : Application} (h : result = .ok shown) :
    s.postAnswer r d result = s.renderedApplication r d 201 shown := by
  rw [h]
  rfl

private theorem postAnswer_of_error {result : Except Failure Application} {f : Failure} (h : result = .error f) :
    (s.postAnswer r d result).status = f.code := by
  rw [h]
  rfl

private theorem putAnswer_of_created {result : Except Failure (Application × Bool)} {shown : Application}
    (h : result = .ok (shown, true)) : s.putAnswer r d result = s.renderedApplication r d 201 shown := by
  rw [h]
  rfl

/-- Where there is no application of the type to be replaced, a request that puts an application does what one that
posts it does.  Both ask for the same record to be created, leave the same behind and have the same status.  If they
succeed, with 201, they show the same application.  If the application names another namespace, or the name is taken in
the store, both fail and nothing changes.  Else the record that backs the application is sent, and what is shown is the
release that the store answers with. -/
theorem put_creates_as_post (h : b.Creating) (t : Twins s post put d ns n app) (hvacant : d.Vacant b st ns n) :
    let posted := (s.handle post).run b.answer st
    let stored := (s.handle put).run b.answer st
    let creations := ((s.handle post).calls b.answer st).filterMap BackingCall.creation?
    ((s.handle put).calls b.answer st).filterMap BackingCall.creation? = creations ∧
    b.contents stored.2 = b.contents posted.2 ∧
    stored.1.status = posted.1.status ∧
    (posted.1.status < 400 → posted.1.status = 201 ∧ ∃ shown,
      posted.1 = s.renderedApplication post d 201 shown ∧ stored.1 = s.renderedApplication put d 201 shown) ∧
    (¬ app.Fits ns ∨ (b.find? st ns (d.names.toBacking n)).isSome = true →
      400 ≤ posted.1.status ∧ b.contents posted.2 = b.contents st) ∧
    (ns ≠ "" → post.body.utf8ByteSize ≤ bodyLimit → app.Fits ns → b.find? st ns (d.names.toBacking n) = none →
      creations = [(ns, sent d ns n app none)] ∧
        ∃ j, b.reply (.create ns (sent d ns n app none)) st = MemoryStore.asRecord (.ok j) ∧
          ∀ record r, Record.ofJson? j = some record → Release.ofRecord record = .ok r →
            posted.1 = s.renderedApplication post d 201 (d.toApplication r)) := by
  intro posted stored creations
  rcases t.handled with ⟨response, hpost, hput, hstatus, hlong⟩ | ⟨hpost, hput⟩
  · -- The body is too long, so both are refused before the store is asked anything.
    have hposted : posted = (response, st) := by simp only [posted, hpost, Exchange.run]
    have hstored : stored = (response, st) := by simp only [stored, hput, Exchange.run]
    have hrefused : 400 ≤ posted.1.status := by rw [hposted, hstatus]; decide
    refine ⟨by simp only [creations, hpost, hput, Exchange.calls], by rw [hposted, hstored], by rw [hposted, hstored],
      fun hsucceeded => absurd hrefused (Nat.not_le_of_lt hsucceeded), fun _ => ⟨hrefused, by rw [hposted]⟩,
      fun _ hlimit => absurd hlimit (Nat.not_le_of_lt hlong)⟩
  · let created := (d.create (some ns) app).run.run b.answer st
    let updated := (d.update (some ns) n (fun _ => .ok app) true).run.run b.answer st
    have hposted : posted = (s.postAnswer post d created.1, created.2) := by
      simp only [posted, created, hpost, Exchange.run_andThen_done]
    have hstored : stored = (s.putAnswer put d updated.1, updated.2) := by
      simp only [stored, updated, hput, Exchange.run_andThen_done]
    have hcreations : creations = ((d.create (some ns) app).run.calls b.answer st).filterMap BackingCall.creation? := by
      simp only [creations, hpost, Exchange.calls_andThen_done]
    have halike : ResourceDefinition.CreatedAlike b st _ _ :=
      ResourceDefinition.created_alike h t.name t.nonempty hvacant
    refine ⟨?sent, ?contents, ?status, ?shown, ?refused, ?succeeds⟩
    case sent => rw [hcreations, hput, Exchange.calls_andThen_done, halike.sent]
    case contents => rw [hposted, hstored]; exact halike.contents
    case status =>
      rcases halike.result with ⟨shown, hshown, hshown'⟩ | ⟨f, f', hf, hf', hcode, -⟩
      · rw [hposted, hstored, postAnswer_of_ok hshown, putAnswer_of_created hshown', rendered_application_status,
          rendered_application_status]
      · rw [hposted, hstored, postAnswer_of_error hf, putAnswer_of_error hf', hcode]
    case shown =>
      intro hsucceeded
      rcases halike.result with ⟨shown, hshown, hshown'⟩ | ⟨f, f', hf, hf', hcode, herror⟩
      · have hanswer : posted.1 = s.renderedApplication post d 201 shown := by rw [hposted, postAnswer_of_ok hshown]
        refine ⟨by rw [hanswer, rendered_application_status], shown, hanswer, ?_⟩
        rw [hstored, putAnswer_of_created hshown']
      · rw [hposted, postAnswer_of_error hf] at hsucceeded
        exact absurd herror (Nat.not_le_of_lt hsucceeded)
    case refused =>
      intro hrefused
      obtain ⟨f, hf, herror, hcontents⟩ := ResourceDefinition.create_refused h t.name t.nonempty hrefused
      rw [hposted, postAnswer_of_error hf]
      exact ⟨herror, hcontents⟩
    case succeeds =>
      intro hns hlimit hfit hfree
      obtain ⟨hcalls, j, hreply, hshown⟩ := ResourceDefinition.create_succeeds h hns t.name t.nonempty hfit hfree
      refine ⟨by rw [hcreations, hcalls]; rfl, j, hreply, fun record r hrecord hr => ?_⟩
      rw [hposted, postAnswer_of_ok (hshown record r hrecord hr)]

/-- A request that posts an application of a name, for examples. -/
def samplePost (name : String) : Request where
  method := "POST"
  target := { path := "/apis/" ++ groupVersion ++ "/namespaces/tenant/webs" }
  body := (Json.object [("metadata", .object [("name", .string name)]), ("appVersion", .string "2")]).toText

def putOfPost (name : String) : Request :=
  { sampleGet "tenant" name with method := "PUT", body := (samplePost name).body }

private theorem twins_samplePost (name : String)
    (hpost : (samplePost name).route? = some (.collection apiGroup apiVersion "tenant" "webs"))
    (hput : (putOfPost name).route? = some (.item apiGroup apiVersion "tenant" "webs" name))
    (hread : ((samplePost name).application.toOption.any fun app => app.name == name) = true) (hn : name ≠ "") :
    ∃ app, Twins sampleServer (samplePost name) (putOfPost name) sampleType "tenant" name app := by
  cases happ : (samplePost name).application with
  | error f => rw [happ] at hread; cases hread
  | ok app =>
    rw [happ] at hread
    exact ⟨app, ⟨apiGroup, apiVersion, "webs", hpost, hput, rfl⟩, rfl, happ, eq_of_beq hread, hn, rfl, rfl⟩

private theorem vacant_beside_otherChart (n : String) :
    sampleType.Vacant MemoryStore.backing (MemoryStore.holding "tenant" ResourceDefinition.otherChart) "tenant" n := by
  have hrereads : ResourceDefinition.otherChart.Rereads := by
    refine ResourceDefinition.toRelease_rereads _ _ ?_ ?_
    · rintro ⟨⟩
    · rintro r ⟨⟩
  exact ResourceDefinition.vacant_holding hrereads rfl n

/-- Twins in a namespace with a release of another type: one application has a name that is free, the other one the
name of this release. -/
theorem twins_beside_another_type :
    let st := MemoryStore.holding "tenant" ResourceDefinition.otherChart
    let posted name := (sampleServer.handle (samplePost name)).run MemoryStore.backing.answer st
    let stored name := (sampleServer.handle (putOfPost name)).run MemoryStore.backing.answer st
    (posted "shop").1.status = 201 ∧ (stored "shop").1.status = 201 ∧
      MemoryStore.backing.contents (stored "shop").2 = MemoryStore.backing.contents (posted "shop").2 ∧
      (posted "blog").1.status = 409 ∧ (stored "blog").1.status = 409 := by
  intro st posted stored
  have hcreated : (posted "shop").1.status = 201 := by decide +kernel
  have hrefused : (posted "blog").1.status = 409 := by decide +kernel
  have halike : ∀ name app, Twins sampleServer (samplePost name) (putOfPost name) sampleType "tenant" name app →
      (stored name).1.status = (posted name).1.status ∧
        MemoryStore.backing.contents (stored name).2 = MemoryStore.backing.contents (posted name).2 := by
    intro name app htwins
    obtain ⟨-, hcontents, hstatus, -⟩ :=
      put_creates_as_post MemoryStore.creating_backing htwins (vacant_beside_otherChart name)
    exact ⟨hstatus, hcontents⟩
  obtain ⟨shop, hshop⟩ :=
    twins_samplePost "shop" (by decide +kernel) (by decide +kernel) (by decide +kernel) (by decide)
  obtain ⟨blog, hblog⟩ :=
    twins_samplePost "blog" (by decide +kernel) (by decide +kernel) (by decide +kernel) (by decide)
  obtain ⟨hstatus, hcontents⟩ := halike "shop" shop hshop
  obtain ⟨hstatus', -⟩ := halike "blog" blog hblog
  exact ⟨hcreated, hstatus.trans hcreated, hcontents, hrefused, hstatus'.trans hrefused⟩

end Server

end Http

end AppGateway
