import AppGateway.Proofs.Gateway.Listing
import AppGateway.Proofs.Gateway.Selection
import AppGateway.Proofs.Gateway.Tables
import AppGateway.Proofs.Http.FailureAnswers
import AppGateway.Proofs.Sample

/-!
# Answers as tables

Two requests that differ in what they accept make the same operation, since nothing but the showing of what it gives
looks at that.  Where one of them is shown an application, or a list, the other is shown the table of it.

* (operation) `Request.SameButAccept.operation`: both requests make the same operation;
* (refusals) `handle_of_same`: a request that makes no operation is answered the same whatever it accepts;
* (showing) `tabulates_shown`: the table of what an operation gives embeds what is shown of it otherwise;
* (answers) `tabulates_answer`: the answers to two requests for the same operation;
* (main result) `table_changes_only_rendering`.
-/

namespace AppGateway

namespace Json

/-- The resource version in the metadata of a document. -/
def version? (j : Json) : Option Json := (j.member? "metadata").bind (·.member? "resourceVersion")

/-- The objects in a document: the items of a list, or else the document itself. -/
def objects (j : Json) : List Json := ((j.member? "items").bind Json.array?).getD [j]

/-- A table embeds the objects of a document, one in each row and in their order, and has its version. -/
structure Tabulates (table document : Json) : Prop where
  kind : table.member? "kind" = some (.string "Table")
  rows : ∃ rows, table.member? "rows" = some (.array rows) ∧
    rows.map (·.member? "object") = document.objects.map some
  version : table.version? = document.version?

end Json

private theorem ListMeta.get?_resourceVersion (m : ListMeta) :
    m.members.get? "resourceVersion" = m.resourceVersion.map .string := by
  simp only [ListMeta.members, ListMeta.toJson, Json.members?, Option.getD_some, Members.get?_append,
    Members.get?_optional, String.reduceEq, if_false, if_true, Option.none_or, Option.or_none]

private theorem Application.version?_toJson (app : Application) :
    app.toJson.version? = app.metadata.resourceVersion.map .string :=
  app.metadata.get?_resourceVersion

private theorem ApplicationList.version?_toJson (list : ApplicationList) :
    list.toJson.version? = list.metadata.resourceVersion.map .string :=
  list.metadata.get?_resourceVersion

private theorem Table.version?_toJson (t : Table) : t.toJson.version? = t.metadata.resourceVersion.map .string :=
  t.metadata.get?_resourceVersion

namespace Table

variable {headers : Bool} {now : Timestamp}

/-- The written table of applications has a row for each of them, with the written application in it. -/
private theorem rows_toJson (t : Table) {apps : List Application} (h : t.rows = apps.map (row now)) :
    ∃ rows, t.toJson.member? "rows" = some (.array rows) ∧
      rows.map (·.member? "object") = (apps.map Application.toJson).map some := by
  refine ⟨_, rfl, ?_⟩
  rw [h, List.map_map, List.map_map, List.map_map]
  rfl

private theorem tabulates_ofApplication (app : Application) :
    (ofApplication headers now app).toJson.Tabulates app.toJson where
  kind := rfl
  rows := by
    have hobjects : app.toJson.objects = [app].map Application.toJson := by
      rw [Json.objects, member?_items_toJson]
      rfl
    rw [hobjects]
    exact rows_toJson _ rfl
  version := by
    rw [version?_toJson, Application.version?_toJson]
    rfl

private theorem tabulates_ofList (list : ApplicationList) : (ofList headers now list).toJson.Tabulates list.toJson where
  kind := rfl
  rows := rows_toJson (ofList headers now list) rfl
  version := by
    rw [version?_toJson, ApplicationList.version?_toJson]
    rfl

end Table

namespace Http

/-- The document in which applications that an operation gives are shown. -/
def Given.document? : Given → Option Json
  | .reply (.one app) => some app.toJson
  | .reply (.many list) => some list.toJson
  | .reply (.stored app _) => some app.toJson
  | _ => none

namespace Request

variable {r r' : Request}

/-- Two requests differ in nothing but what they accept. -/
structure SameButAccept (r r' : Request) : Prop where
  method : r'.method = r.method
  target : r'.target = r.target
  body : r'.body = r.body
  headers : r'.headers.filter (fun h => h.1.toLower != "accept") = r.headers.filter fun h => h.1.toLower != "accept"

private theorem SameButAccept.headerValues (h : r.SameButAccept r') {name : String} (hname : name ≠ "accept") :
    r'.headerValues name = r.headerValues name := by
  -- What is kept under another name is kept among the headers that are the same.
  have hkept (r : Request) : r.headers.filter (fun h => h.1.toLower == name) =
      (r.headers.filter fun h => h.1.toLower != "accept").filter fun h => h.1.toLower == name := by
    rw [List.filter_filter]
    refine List.filter_congr fun header _ => ?_
    by_cases hheader : header.1.toLower = name <;> simp [hheader, hname]
  rw [Request.headerValues, Request.headerValues, hkept r', hkept r, h.headers]

private theorem SameButAccept.mediaType (h : r.SameButAccept r') : r'.mediaType = r.mediaType := by
  rw [Request.mediaType, Request.mediaType, headerText, headerText, h.headerValues (by decide)]

private theorem SameButAccept.readBody {α : Type} (h : r.SameButAccept r') (shape : Shape) (read : Json → Option α) :
    r'.readBody shape read = r.readBody shape read := by
  rw [Request.readBody, Request.readBody, h.body]

private theorem SameButAccept.patch (h : r.SameButAccept r') : r'.patch = r.patch := by
  simp only [Request.patch, h.mediaType, h.readBody, h.body]

private theorem SameButAccept.queryPairs (h : r.SameButAccept r') : r'.queryPairs = r.queryPairs := by
  rw [Request.queryPairs, Request.queryPairs, h.target]

private theorem SameButAccept.asked (h : r.SameButAccept r') (name : Option String) : r'.asked name = r.asked name := by
  have happlication : r'.application = r.application := h.readBody _ _
  have hquery : r'.query = r.query := by rw [query, query, h.queryPairs]
  cases name <;> simp only [Request.asked, h.method, h.patch, happlication, hquery]

theorem SameButAccept.operation (h : r.SameButAccept r') (s : Server) (place : Place) :
    s.operation r' place = s.operation r place := by
  have hattempt : r'.attempt place = r.attempt place := by
    funext d
    rw [attempt, attempt, h.asked]
  rw [Server.operation, Server.operation, hattempt]

private theorem SameButAccept.route? (h : r.SameButAccept r') : r'.route? = r.route? := by
  rw [Request.route?, Request.route?, h.target]

private theorem SameButAccept.reaches (h : r.SameButAccept r') {route : Route} (hreaches : r.Reaches route) :
    r'.Reaches route where
  path := h.route?.trans hreaches.path
  method := by rw [h.method]; exact hreaches.method
  query := by rw [h.method, h.queryPairs]; exact hreaches.query
  body := by rw [h.method, h.body]; exact hreaches.body

end Request

namespace Server

variable {σ : Type} {s : Server} {r r' : Request}

open Request (SameButAccept)

private theorem headOnly_of_same (h : r.SameButAccept r') (response : Response) :
    headOnly r' response = headOnly r response := by
  rw [headOnly, headOnly, h.method]

/-- A route that is no collection and no item of a namespace, or whose query or body cannot be read, is answered without
a look at the headers. -/
private theorem handleRoute_of_same (h : r.SameButAccept r') {route : Route} (hroute : r.route? = some route)
    (hmethod : route.methods.contains r.method = true)
    (hnone : ∀ place, r.Reaches route → route.place? = some place → False) :
    s.handleRoute r' route = s.handleRoute r route := by
  cases route with
  | health => rfl
  | groups => rfl
  | group g => rfl
  | version g v => rfl
  | clusterCollection g v p => rw [handleRoute, handleRoute, onQuery, onQuery, h.queryPairs]
  | collection g v ns p =>
    by_cases hpost : r.method = "POST"
    · have hbody : ¬ r.body.utf8ByteSize ≤ bodyLimit := fun hfits =>
        hnone _ ⟨hroute, hmethod, fun hreads => absurd hpost (of_decide_eq_true hreads), fun _ => hfits⟩ rfl
      rw [handleRoute, handleRoute, h.method, if_pos hpost, if_pos hpost, onBody, onBody, h.body, if_neg hbody,
        if_neg hbody]
    · have hquery : CollectionQuery.ofPairs? r.queryPairs = none := by
        rw [← Option.not_isSome_iff_eq_none]
        exact fun hread => hnone _ ⟨hroute, hmethod, fun _ => hread, fun hreads =>
          absurd (of_decide_eq_true hreads) hpost⟩ rfl
      rw [handleRoute, handleRoute, h.method, if_neg hpost, if_neg hpost, onQuery, onQuery, h.queryPairs, hquery]
  | item g v ns p name =>
    have hbody : (Route.item g v ns p name).readsBody r.method = true ∧ ¬ r.body.utf8ByteSize ≤ bodyLimit := by
      rw [← Classical.not_imp]
      exact fun hfits => hnone _ ⟨hroute, hmethod, fun hreads => (by cases hreads), hfits⟩ rfl
    have hrefused (r : Request) (hlong : ¬ r.body.utf8ByteSize ≤ bodyLimit) (answer : Exchange Response) :
        onBody r answer = .done (.text 413 "Failed to buffer the request body: length limit exceeded") := if_neg hlong
    have hlong' : ¬ r'.body.utf8ByteSize ≤ bodyLimit := h.body ▸ hbody.2
    rcases Bool.or_eq_true_iff.mp hbody.1 with hput | hpatch
    · have hput : r.method = "PUT" := of_decide_eq_true hput
      simp only [handleRoute, h.method, hput, hrefused _ hbody.2, hrefused _ hlong']
    · have hpatch : r.method = "PATCH" := of_decide_eq_true hpatch
      simp only [handleRoute, h.method, hpatch, hrefused _ hbody.2, hrefused _ hlong']

/-- A request that does not reach a collection or an item of a namespace is answered the same whatever it accepts. -/
theorem handle_of_same (h : r.SameButAccept r')
    (hnone : ∀ route place, r.Reaches route → route.place? = some place → False) : s.handle r' = s.handle r := by
  cases hpath : Route.ofPath? r.target.path with
  | none => simp only [handle, h.target, hpath]
  | some raw =>
    cases hmethod : raw.methods.contains r.method with
    | false => simp only [handle, h.target, h.method, hpath, hmethod, Bool.not_false, if_true]
    | true =>
      cases hdecoded : raw.decoded with
      | error name => simp only [handle, h.target, h.method, hpath, hmethod, hdecoded, headOnly_of_same h]
      | ok route =>
        have hroute : s.handleRoute r' route = s.handleRoute r route :=
          handleRoute_of_same h (Request.route?_of_decoded hpath hdecoded)
            ((Route.decoded_spec hdecoded).1 ▸ hmethod) (hnone route)
        simp only [handle, h.target, h.method, hpath, hmethod, hdecoded, hroute, headOnly_of_same h]

/-! ### What an operation gives -/

/-- What an operation gives is shown as it is in a document and as a table in another one, with the same status. -/
theorem tabulates_shown (hplain : r.wantsTable = false) (htable : r'.wantsTable = true)
    (place : Place) (d : ResourceDefinition) (given : Given) :
    match given.document? with
    | none => s.shown r' place d given = s.shown r place d given
    | some document => ∃ status table, s.shown r place d given = .json status document ∧
        s.shown r' place d given = .json status table ∧ table.Tabulates document := by
  have happlication (status : Nat) (app : Application) : ∃ table,
      s.renderedApplication r d status app = .json status app.toJson ∧
      s.renderedApplication r' d status app = .json status table ∧ table.Tabulates app.toJson := by
    refine ⟨(Table.ofApplication true s.now app).toJson, ?_, ?_, Table.tabulates_ofApplication app⟩
    · rw [renderedApplication, rendered, hplain, if_neg Bool.false_ne_true]
    · rw [renderedApplication, rendered, htable, if_pos rfl]
      rfl
  cases given with
  | watched items => rfl
  | reply reply =>
    cases reply with
    | one app => exact ⟨_, happlication _ app⟩
    | stored app created => exact ⟨_, happlication _ app⟩
    | many list =>
      refine ⟨200, (Table.ofList true s.now list).toJson, ?_, ?_, Table.tabulates_ofList list⟩
      · rw [shown, rendered, hplain, if_neg Bool.false_ne_true]
      · rw [shown, rendered, htable, if_pos rfl]
        rfl
    | gone => rfl

/-- What the operation of a request gives is shown in the answers to both requests, or how it failed is told. -/
theorem run_of_same (h : r.SameButAccept r') {route : Route} {place : Place} (hreaches : r.Reaches route)
    (hplace : route.place? = some place) (answer : (c : BackingCall) → σ → c.Answer × σ) (st : σ) :
    let result := ((s.operation r place).run.run answer st).1
    ((s.handle r).run answer st).1 = headOnly r (s.told r place result) ∧
      ((s.handle r').run answer st).1 = headOnly r (s.told r' place result) ∧
      (s.handle r').calls answer st = (s.handle r).calls answer st ∧
      ((s.handle r').run answer st).2 = ((s.handle r).run answer st).2 := by
  intro result
  have hplain := handle_of_reaches (s := s) hreaches hplace
  have htabled := handle_of_reaches (s := s) (h.reaches hreaches) hplace
  rw [h.operation] at htabled
  rw [hplain, htabled, Exchange.run_andThen_done, Exchange.run_andThen_done, Exchange.calls_andThen_done,
    Exchange.calls_andThen_done]
  exact ⟨rfl, headOnly_of_same h _, rfl, rfl⟩

/-- Two requests for the same operation are answered with the same status.  Where the operation gives applications, one
answer is the document in which they are shown and the other one is a table of it; else the answers are the same. -/
theorem tabulates_answer (h : r.SameButAccept r') (hplain : r.wantsTable = false) (htable : r'.wantsTable = true)
    {route : Route} {place : Place} (hreaches : r.Reaches route) (hplace : route.place? = some place)
    (answer : (c : BackingCall) → σ → c.Answer × σ) (st : σ) :
    let plain := ((s.handle r).run answer st).1
    let tabled := ((s.handle r').run answer st).1
    tabled.status = plain.status ∧
      match ((s.operation r place).run.run answer st).1 with
      | .error _ => tabled = plain
      | .ok (_, given) =>
        match given.document? with
        | none => tabled = plain
        | some document => ∃ table, plain = headOnly r (.json plain.status document) ∧
            tabled = headOnly r (.json plain.status table) ∧ table.Tabulates document := by
  intro plain tabled
  obtain ⟨hrun, hrun', -, -⟩ := run_of_same (s := s) h hreaches hplace answer st
  cases hresult : ((s.operation r place).run.run answer st).1 with
  | error f =>
    rw [hresult] at hrun hrun'
    have hsame : tabled = plain := hrun'.trans hrun.symm
    exact ⟨congrArg Response.status hsame, hsame⟩
  | ok result =>
    obtain ⟨d, given⟩ := result
    rw [hresult] at hrun hrun'
    have hgiven := tabulates_shown (s := s) hplain htable place d given
    cases hdocument : given.document? with
    | none =>
      simp only [hdocument] at hgiven ⊢
      have hsame : tabled = plain := hrun'.trans ((congrArg (headOnly r) hgiven).trans hrun.symm)
      exact ⟨congrArg Response.status hsame, hsame⟩
    | some document =>
      simp only [hdocument] at hgiven ⊢
      obtain ⟨status, table, hshown, hshown', htabulates⟩ := hgiven
      have hanswer : plain = headOnly r (.json status document) := hrun.trans (congrArg (headOnly r) hshown)
      have hanswer' : tabled = headOnly r (.json status table) := hrun'.trans (congrArg (headOnly r) hshown')
      have hstatus : plain.status = status := by
        rw [hanswer, headOnly_status]
        rfl
      have hstatus' : tabled.status = status := by
        rw [hanswer', headOnly_status]
        rfl
      rw [hstatus]
      exact ⟨hstatus', table, hanswer, hanswer', htabulates⟩

/-- A request makes the same calls and is answered with the same status, whether it asks for a table or not.  Where its
operation gives applications, in answer to a list, a get, a create, a put or a patch, the plain answer is the document
in which they are shown, and the other one is a table of it.  All other answers are the same: those of failures, and
those in which there are no applications. -/
theorem table_changes_only_rendering (h : r.SameButAccept r') (hplain : r.wantsTable = false)
    (htable : r'.wantsTable = true) (answer : (c : BackingCall) → σ → c.Answer × σ) (st : σ) :
    let plain := ((s.handle r).run answer st).1
    let tabled := ((s.handle r').run answer st).1
    (s.handle r').calls answer st = (s.handle r).calls answer st ∧
    ((s.handle r').run answer st).2 = ((s.handle r).run answer st).2 ∧
    tabled.status = plain.status ∧
    ((∀ route place, r.Reaches route → route.place? = some place → False) → tabled = plain) ∧
    ∀ route place, r.Reaches route → route.place? = some place →
      match ((s.operation r place).run.run answer st).1 with
      | .error _ => tabled = plain
      | .ok (_, given) =>
        match given.document? with
        | none => tabled = plain
        | some document => ∃ table, plain = headOnly r (.json plain.status document) ∧
            tabled = headOnly r (.json plain.status table) ∧ table.Tabulates document := by
  intro plain tabled
  by_cases hreaches : ∃ route place, r.Reaches route ∧ route.place? = some place
  · have hanswer {route : Route} {place : Place} (hroute : r.Reaches route) (hplace : route.place? = some place) :=
      tabulates_answer (s := s) h hplain htable hroute hplace answer st
    obtain ⟨route, place, hroute, hplace⟩ := hreaches
    obtain ⟨-, -, hcalls, hstate⟩ := run_of_same (s := s) h hroute hplace answer st
    exact ⟨hcalls, hstate, (hanswer hroute hplace).1, fun hnone => (hnone route place hroute hplace).elim,
      fun _ _ hroute hplace => (hanswer hroute hplace).2⟩
  · have hnone : ∀ route place, r.Reaches route → route.place? = some place → False :=
      fun route place hroute hplace => hreaches ⟨route, place, hroute, hplace⟩
    have hsame : s.handle r' = s.handle r := handle_of_same h hnone
    have htabled : tabled = plain := congrArg (fun e : Exchange Response => (e.run answer st).1) hsame
    exact ⟨by rw [hsame], by rw [hsame], congrArg Response.status htabled, fun _ => htabled,
      fun route place hroute hplace => (hnone route place hroute hplace).elim⟩

/-- A request for an application, as it is made for a table. -/
def sampleTableGet (ns name : String) : Request :=
  { sampleGet ns name with headers := [("Accept", "application/json;as=Table;g=meta.k8s.io;v=v1, application/json")] }

/-- An application is shown as a document to one request, and as a table of this document to another one. -/
theorem shop_as_a_table :
    let shop := sampleType.toApplication webShop
    let plain := sampleGet "tenant" "shop"
    let tabled := sampleTableGet "tenant" "shop"
    (plain.SameButAccept tabled ∧ plain.wantsTable = false ∧ tabled.wantsTable = true) ∧
    ((sampleServer.handle tabled).run (ResourceDefinition.gives webShop.toStored) ()).1.status = 200 ∧
    ∃ table,
      ((sampleServer.handle plain).run (ResourceDefinition.gives webShop.toStored) ()).1 = .json 200 shop.toJson ∧
      ((sampleServer.handle tabled).run (ResourceDefinition.gives webShop.toStored) ()).1 = .json 200 table ∧
      table.Tabulates shop.toJson := by
  intro shop plain tabled
  have hsame : plain.SameButAccept tabled := ⟨rfl, rfl, rfl, by decide +kernel⟩
  have hplain : plain.wantsTable = false := by decide +kernel
  have htable : tabled.wantsTable = true := by decide +kernel
  have hreaches : plain.Reaches (.item apiGroup apiVersion "tenant" "webs" "shop") :=
    Request.reaches_item (by decide +kernel) rfl
  let place : Place := ⟨apiGroup, apiVersion, "tenant", "webs", some "shop"⟩
  have hplace : (Route.item apiGroup apiVersion "tenant" "webs" "shop").place? = some place := rfl
  have hgiven : ((sampleServer.operation plain place).run.run (ResourceDefinition.gives webShop.toStored) ()).1 =
      .ok (sampleType, .reply (.one shop)) := rfl
  have hok : ((sampleServer.handle plain).run (ResourceDefinition.gives webShop.toStored) ()).1.status = 200 := by
    rw [(run_of_same (s := sampleServer) hsame hreaches hplace _ _).1, headOnly_status, hgiven]
    rfl
  obtain ⟨-, -, hstatus, -, hshown⟩ :=
    table_changes_only_rendering (s := sampleServer) hsame hplain htable (ResourceDefinition.gives webShop.toStored) ()
  have htable := hshown _ place hreaches hplace
  rw [hgiven] at htable
  obtain ⟨table, hplain, htabled, htabulates⟩ := htable
  rw [hok] at hplain htabled hstatus
  exact ⟨⟨hsame, ‹_›, ‹_›⟩, hstatus, table, hplain, htabled, htabulates⟩

end Server

end Http

end AppGateway
