import AppGateway.Backing.WireServer
import AppGateway.Proofs.Backing.Address
import AppGateway.Proofs.Http.Handling
import AppGateway.Proofs.Sample

/-!
# What requests to an item send

The calls of a request to an item are all about the record of the application in its path (`handle_only_about`).  What
is sent for them goes to this record exactly when the namespace and the name of the record stand for themselves in a
path: when they hold no delimiter, which would end a segment, and no escape, which the store would replace.

* `item_requests_reach_their_record`: where the requests of a request to an item go;
* `crafted_namespace_reaches_another`: requests to an item for which a record of another namespace is asked.
-/

namespace AppGateway

namespace Exchange

variable {α β σ : Type} {P Q : BackingCall → Prop}

/-- Whatever the answers are, the program makes only calls with a property. -/
inductive Only (P : BackingCall → Prop) : Exchange α → Prop where
  | done (result : α) : Only P (.done result)
  | call {c next} (here : P c) (rest : ∀ answer : c.Answer, Only P (next answer)) : Only P (.call c next)

private theorem Only.mono {e : Exchange α} (h : e.Only P) (hPQ : ∀ c, P c → Q c) : e.Only Q := by
  induction h with
  | done a => exact .done a
  | call here rest ih => exact .call (hPQ _ here) ih

/-- What is done with the result makes no further calls. -/
theorem Only.andThen_done {e : Exchange α} (h : e.Only P) (f : α → β) : (e.andThen fun a => .done (f a)).Only P := by
  induction h with
  | done a => exact .done _
  | call here rest ih => exact .call here ih

private theorem Only.of_mem_calls {e : Exchange α} (h : e.Only P) (answer : (c : BackingCall) → σ → c.Answer × σ) :
    ∀ s, ∀ c ∈ e.calls answer s, P c := by
  induction h with
  | done a => exact fun s c hc => absurd hc (by simp [calls])
  | call here rest ih =>
    intro s c hc
    rcases List.mem_cons.mp hc with rfl | hc
    · exact here
    · exact ih _ _ c hc

end Exchange

namespace BackingCall

/-- The call is about the record of a namespace and a name: its address names the record, or it creates it. -/
def IsAbout (c : BackingCall) (ns name : String) : Prop :=
  c.ns = ns ∧ (c.itemName? = some name ∨ ∃ record, c = .create ns record ∧ record.name = name)

end BackingCall

namespace ResourceDefinition

variable (d : ResourceDefinition) {ns name : String}

private theorem requireNamespace_of_empty (operation : Operation) (h : ns = "") :
    requireNamespace operation (some ns) = .error (.namespaceRequired operation) :=
  requireNamespace_of_missing operation h

private theorem afterFetch_only_about (ns name : String) (updater : Option Application → Except Failure Application)
    (mayCreate : Bool) (answer : Except BackingError Record) :
    (d.afterFetch ns name updater mayCreate answer).Only (·.IsAbout ns (d.names.toBacking name)) := by
  rw [afterFetch]
  split
  · exact .done _
  · rename_i stored _
    cases hrecord : d.updatedRecord ns name updater stored with
    | error failure => exact .done _
    | ok record =>
      obtain ⟨app, -, hwritten⟩ := Except.of_bind_eq_ok hrecord
      cases stored with
      | some release => exact .call ⟨rfl, .inl rfl⟩ fun _ => .done _
      | none => exact .call ⟨rfl, .inr ⟨record, rfl, (d.writtenRecord_spec hwritten).1⟩⟩ fun _ => .done _

private theorem get_only_about (ns name : String) :
    (d.get (some ns) name).run.Only (·.IsAbout ns (d.names.toBacking name)) := by
  by_cases hns : ns = ""
  · rw [get, requireNamespace_of_empty _ hns, Action.run_of_bind]
    exact .done _
  · rw [d.get_run hns]
    exact .call ⟨rfl, .inl rfl⟩ fun _ => .done _

private theorem update_only_about (ns name : String) (updater : Option Application → Except Failure Application)
    (mayCreate : Bool) :
    (d.update (some ns) name updater mayCreate).run.Only (·.IsAbout ns (d.names.toBacking name)) := by
  by_cases hns : ns = ""
  · rw [update, requireNamespace_of_empty _ hns, Action.run_of_bind]
    exact .done _
  · rw [d.update_run hns]
    exact .call ⟨rfl, .inl rfl⟩ (d.afterFetch_only_about ns name updater mayCreate)

private theorem patch_only_about (ns name : String) (p : Patch) :
    (d.patch (some ns) name p).run.Only (·.IsAbout ns (d.names.toBacking name)) := by
  by_cases hns : ns = ""
  · rw [patch, requireNamespace_of_empty _ hns, Action.run_of_bind]
    exact .done _
  · rw [d.patch_run hns]
    refine .call ⟨rfl, .inl rfl⟩ fun answer => ?_
    cases d.fetched .patch name answer with
    | error failure => exact .done _
    | ok release => exact .call ⟨rfl, .inl rfl⟩ fun _ => .done _

private theorem delete_only_about (ns name : String) :
    (d.delete (some ns) name).run.Only (·.IsAbout ns (d.names.toBacking name)) := by
  by_cases hns : ns = ""
  · rw [delete, requireNamespace_of_empty _ hns, Action.run_of_bind]
    exact .done _
  · rw [d.delete_run hns]
    refine .call ⟨rfl, .inl rfl⟩ fun answer => ?_
    cases d.fetched .delete name answer with
    | error failure => exact .done _
    | ok release => exact .call ⟨rfl, .inl rfl⟩ fun _ => .done _

end ResourceDefinition

namespace Http

namespace Server

variable {s : Server} {r : Request} {g v ns p name : String} {P : BackingCall → Prop}

private theorem respond_only {α : Type} {action : Action α} {answer : α → Response} (h : action.run.Only P) :
    (respond action answer).Only P := by
  rw [respond_eq]
  exact h.andThen_done (answered answer)

private theorem onType_only {answer : ResourceDefinition → Exchange Response}
    (h : ∀ d, s.resolve g v p = .ok d → (answer d).Only P) : (s.onType g v p answer).Only P := by
  rw [onType]
  cases hresolve : s.resolve g v p with
  | error failure => exact .done _
  | ok d => exact h d hresolve

private theorem onBody_only {answer : Exchange Response} (h : answer.Only P) : (onBody r answer).Only P := by
  rw [onBody]
  split
  · exact h
  · exact .done _

private theorem put_only_about (d : ResourceDefinition) (ns name : String) :
    (s.put r d ns name).Only (·.IsAbout ns (d.names.toBacking name)) := by
  refine respond_only ?_
  rw [Action.run_of_bind]
  cases r.application with
  | error failure => exact .done _
  | ok desired => exact d.update_only_about ns name (fun _ => .ok desired) true

private theorem patch_only_about (d : ResourceDefinition) (ns name : String) :
    (s.patch r d ns name).Only (·.IsAbout ns (d.names.toBacking name)) := by
  refine respond_only ?_
  rw [Action.run_of_bind]
  cases r.patch with
  | error failure => exact .done _
  | ok p => exact d.patch_only_about ns name p

/-- A request to an item makes only calls that are about the record of the application in its path. -/
theorem handle_only_about (hroute : r.route? = some (.item g v ns p name)) :
    (s.handle r).Only fun c => ∃ d, s.resolve g v p = .ok d ∧ c.IsAbout ns (d.names.toBacking name) := by
  obtain ⟨route, hpath, hdecoded⟩ := Request.of_route? hroute
  -- A method that is not allowed, a body that cannot be read and a type that is not served end the request at once.
  cases hmethod : route.methods.contains r.method with
  | false =>
    rw [handle, hpath]
    simp only [hmethod]
    exact .done _
  | true =>
    rw [handle_eq hpath hmethod hdecoded]
    refine Exchange.Only.andThen_done ?_ _
    have hmono : ∀ d, s.resolve g v p = .ok d → ∀ answer : Exchange Response,
        answer.Only (·.IsAbout ns (d.names.toBacking name)) →
        answer.Only fun c => ∃ d, s.resolve g v p = .ok d ∧ c.IsAbout ns (d.names.toBacking name) :=
      fun d hresolve answer h => h.mono fun c hc => ⟨d, hresolve, hc⟩
    rw [handleRoute]
    split
    · exact onBody_only (onType_only fun d hresolve => hmono d hresolve _ (put_only_about d ns name))
    · exact onBody_only (onType_only fun d hresolve => hmono d hresolve _ (patch_only_about d ns name))
    · exact onType_only fun d hresolve => hmono d hresolve _ (respond_only (d.delete_only_about ns name))
    · exact onType_only fun d hresolve => hmono d hresolve _ (respond_only (d.get_only_about ns name))

/-- A request for an item first asks for the record of the application in its path. -/
private theorem handle_get (hroute : r.route? = some (.item g v ns p name)) (hget : r.method = "GET")
    {d : ResourceDefinition} (hresolve : s.resolve g v p = .ok d) (hns : ns ≠ "") :
    ∃ next, s.handle r = .call (.get ns (d.names.toBacking name)) next := by
  obtain ⟨route, hpath, hdecoded⟩ := Request.of_route? hroute
  have hmethod : route.methods.contains r.method = true := by
    rw [hget]
    cases route <;> rfl
  have hask : s.handleRoute r (.item g v ns p name) = s.get r d ns name := by
    rw [handleRoute, hget]
    show s.onType g v p _ = _
    rw [onType, hresolve]
  rw [handle_eq hpath hmethod hdecoded, hask, get, respond_eq, d.get_run hns]
  exact ⟨_, rfl⟩

variable {σ : Type}

/-- Each call of a request to an item is about the record of the application in its path.  What is sent for it has
exactly the path of this record, with only the query of the call, and the store reads in it this namespace and this
name, just when the two stand for themselves in a path.  Such a call is not sent when its name is empty or a character
may not stand in a path, and of no other such call that is sent the store reads the same. -/
theorem item_requests_reach_their_record (hroute : r.route? = some (.item g v ns p name))
    (answer : (c : BackingCall) → σ → c.Answer × σ) (st : σ) :
    ∀ c ∈ (s.handle r).calls answer st,
      ∃ d, s.resolve g v p = .ok d ∧ c.IsAbout ns (d.names.toBacking name) ∧
        (∀ q, c.request? = some q → (c.Exact q.target ↔ c.Literal)) ∧
        (c.Literal →
          (c.request?.isSome = true ↔
            c.itemName? ≠ some "" ∧ ∀ part ∈ c.parts, part.toList.all Target.isPathChar = true) ∧
          (∀ q, c.request? = some q → WireTarget.ofPath? q.target.path = some (ns, c.itemName?)) ∧
          ∀ (c' : BackingCall) (q q' : WireRequest), c'.Literal → c.request? = some q → c'.request? = some q' →
            WireTarget.ofPath? q.target.path = WireTarget.ofPath? q'.target.path →
            c'.ns = ns ∧ c'.itemName? = c.itemName?) := by
  intro c hc
  obtain ⟨d, hresolve, habout⟩ := (handle_only_about hroute).of_mem_calls answer st c hc
  refine ⟨d, hresolve, habout, fun q hq => BackingCall.exact_iff_literal hq, fun hliteral =>
    ⟨BackingCall.request?_isSome_iff hliteral.undelimited, fun q hq => ?_, fun c' q q' hliteral' hq hq' hread => ?_⟩⟩
  · rw [((BackingCall.exact_iff_literal hq).mpr hliteral).read, habout.1]
  · obtain ⟨hns, hitem⟩ := BackingCall.eq_of_ofPath?_eq hliteral hliteral' hq hq' hread
    exact ⟨hns.symm.trans habout.1, hitem.symm⟩

private theorem mem_calls_sampleGet {ns name : String} {r : Request} (hget : r.method = "GET")
    (hroute : r.route? = some (.item apiGroup apiVersion ns "webs" name)) (hns : ns ≠ "") (st : WireServer) :
    BackingCall.get ns (sampleType.names.toBacking name) ∈ (sampleServer.handle r).calls WireServer.answer st := by
  have hresolve : sampleServer.resolve apiGroup apiVersion "webs" = .ok sampleType := by rfl
  obtain ⟨next, hnext⟩ := handle_get hroute hget hresolve hns
  rw [hnext]
  exact List.mem_cons_self

/-- A request for an application whose names have no delimiters reads the record of the application. -/
theorem web_shop_request_reaches_its_record :
    (sampleGet "tenant" "shop").route? = some (.item apiGroup apiVersion "tenant" "webs" "shop") ∧
      ∃ q, BackingCall.get "tenant" "web-shop" ∈
          (sampleServer.handle (sampleGet "tenant" "shop")).calls WireServer.answer {} ∧
        (BackingCall.get "tenant" "web-shop").request? = some q ∧
        q.target.segments =
          ["", "apis", "helm.toolkit.fluxcd.io", "v2", "namespaces", "tenant", "helmreleases", "web-shop"] ∧
        WireTarget.ofPath? q.target.path = some ("tenant", some "web-shop") := by
  have hroute : (sampleGet "tenant" "shop").route? = some (.item apiGroup apiVersion "tenant" "webs" "shop") := by
    decide +kernel
  have hmem := mem_calls_sampleGet rfl hroute (by decide) {}
  have hliteral : (BackingCall.get "tenant" "web-shop").Literal := by decide +kernel
  obtain ⟨d, -, -, hexact, hsent⟩ := item_requests_reach_their_record hroute WireServer.answer {} _ hmem
  obtain ⟨hsome, hread, -⟩ := hsent hliteral
  obtain ⟨q, hq⟩ := Option.isSome_iff_exists.mp (hsome.mpr ⟨by decide, by decide +kernel⟩)
  exact ⟨hroute, q, hmem, hq, ((hexact q hq).mpr hliteral).segments, hread q hq⟩

/-- A request is routed to an item of a namespace, but in what is sent for it the store reads the record of another
namespace. -/
def Strays (s : Server) (r : Request) (ns other record : String) : Prop :=
  (∃ g v p name, r.route? = some (.item g v ns p name)) ∧ ns ≠ other ∧
    ∃ c ∈ (s.handle r).calls WireServer.answer {}, c.ns = ns ∧ ∃ q, c.request? = some q ∧
      WireTarget.ofPath? q.target.path = some (other, some record) ∧ ¬ c.Exact q.target

private theorem sampleGet_strays {raw ns name other record : String}
    (hroute : (sampleGet raw name).route? = some (.item apiGroup apiVersion ns "webs" name)) (hns : ns ≠ "")
    (hother : ns ≠ other) (hread : ((BackingCall.get ns (sampleType.names.toBacking name)).request?.bind fun q =>
      WireTarget.ofPath? q.target.path) = some (other, some record)) :
    sampleServer.Strays (sampleGet raw name) ns other record := by
  obtain ⟨q, hq, hpath⟩ := Option.bind_eq_some_iff.mp hread
  refine ⟨⟨_, _, _, _, hroute⟩, hother, _, mem_calls_sampleGet rfl hroute hns {}, rfl, q, hq, hpath, fun hexact => ?_⟩
  exact hother (Prod.mk.inj (Option.some.inj (hexact.read.symm.trans hpath))).1

/-- A namespace with an escaped slash and question mark in it reads as a path to a record of another namespace, and so
does one with an escaped percent sign, which leaves an escape in the path that is sent. -/
theorem crafted_namespace_reaches_another :
    sampleServer.Strays (sampleGet "victim%2Fhelmreleases%2Fweb-shop%3F" "x") "victim/helmreleases/web-shop?" "victim"
        "web-shop" ∧
      sampleServer.Strays (sampleGet "victi%256D" "shop") "victi%6D" "victim" "web-shop" :=
  ⟨sampleGet_strays (by decide +kernel) (by decide) (by decide) (by decide +kernel),
    sampleGet_strays (by decide +kernel) (by decide) (by decide) (by decide +kernel)⟩

end Server

end Http

end AppGateway
