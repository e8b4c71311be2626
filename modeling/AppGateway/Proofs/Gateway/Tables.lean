import AppGateway.Gateway.Table
import AppGateway.Proofs.Gateway.Program
import AppGateway.Proofs.Json.Paths
import AppGateway.Proofs.Resource.SentBack
import AppGateway.Proofs.Sample

/-!
# Tables of plain objects

A table is made from applications, or from plain JSON that is read as applications first.  Both ways lead to the same
table when the plain JSON is what applications that are shown are written as.

* (reading) `ApplicationList.ofJson?_toJson`: a list is read back as it was written when its applications are;
* (guessing) `render_untyped_application`, `render_untyped_list`: a written application has no items, and a written list
  has, so that each is read as what it is;
* (rows) `row_shows`: what is in the row of an application;
* (main result) `untyped_tables_agree`.
-/

namespace AppGateway

namespace ListMeta

/-- The members of the written metadata of a list. -/
def members (m : ListMeta) : Members := m.toJson.members?.getD []

private theorem toJson_eq (m : ListMeta) : m.toJson = .object m.members := rfl

private theorem filter_members (m : ListMeta) (key : String) :
    m.members.filter (·.1 == key) =
      (Members.optional "continue" (m.continuation.map .string)).filter (·.1 == key)
      ++ (Members.optional "remainingItemCount" (m.remainingItemCount.map .int)).filter (·.1 == key)
      ++ (Members.optional "resourceVersion" (m.resourceVersion.map .string)).filter (·.1 == key)
      ++ (Members.optional "selfLink" (m.selfLink.map .string)).filter (·.1 == key) := by
  simp only [members, toJson, Json.members?, Option.getD_some, List.filter_append]

/-- The metadata of a list is read back as it was written when its number is. -/
theorem ofJson?_toJson {m : ListMeta} (h : ∀ n, m.remainingItemCount = some n → (Json.int n).int64? = some n) :
    ofJson? m.toJson = some m := by
  have continuation : m.members.nullable "continue" Json.string? = some m.continuation :=
    Members.nullable_text (by simp [filter_members, Members.filter_optional])
  have remaining : m.members.nullable "remainingItemCount" Json.int64? = some m.remainingItemCount := by
    refine Members.nullable_of_reread (by simp [filter_members, Members.filter_optional]; rfl) fun n hn => ?_
    rw [Json.nullable_int, h n hn]
    rfl
  have version : m.members.nullable "resourceVersion" Json.string? = some m.resourceVersion :=
    Members.nullable_text (by simp [filter_members, Members.filter_optional])
  have selfLink : m.members.nullable "selfLink" Json.string? = some m.selfLink :=
    Members.nullable_text (by simp [filter_members, Members.filter_optional])
  rw [toJson_eq, ofJson?]
  dsimp only [Json.members?, Option.bind_eq_bind, Option.bind_some]
  rw [continuation, remaining, version, selfLink]
  rfl

end ListMeta

namespace ApplicationList

/-- The metadata and the applications of a list are read back as they are written. -/
structure Rereads (list : ApplicationList) : Prop where
  metadata : ListMeta.ofJson? list.metadata.toJson = some list.metadata
  items : ∀ app ∈ list.items, app.Rereads

/-- A list is read back as it was written. -/
theorem ofJson?_toJson {list : ApplicationList} (h : list.Rereads) : ofJson? list.toJson = some list := by
  have hitems : Json.listOf Application.ofJson? (.array (list.items.map Application.toJson)) = some list.items :=
    Json.listOf_array fun app happ => Application.ofJson?_toJson (h.items app happ)
  obtain ⟨ms, hms, hstrict, hversion, hkind, hmetadata, hread⟩ : ∃ ms : Members, list.toJson = .object ms ∧
      Json.fields? fields (.object ms) = some ms ∧ ms.read "apiVersion" Json.string? "" = some list.apiVersion ∧
      ms.read "kind" Json.string? "" = some list.kind ∧
      ms.read "metadata" ListMeta.ofJson? {} = ListMeta.ofJson? list.metadata.toJson ∧
      ms.read "items" (Json.listOf Application.ofJson?) [] =
        Json.listOf Application.ofJson? (.array (list.items.map Application.toJson)) := by
    refine ⟨_, rfl, rfl, rfl, rfl, ?_, ?_⟩
    · exact Members.read_of_filter_some _ _ rfl
    · exact Members.read_of_filter_some _ _ rfl
  rw [hms, ofJson?, hstrict]
  simp only [hversion, hkind, hmetadata, hread, h.metadata, hitems, Option.bind_eq_bind, Option.bind_some]
  rfl

end ApplicationList

namespace Table

variable {headers : Bool} {resource : String} {now : Timestamp}

/-! ### Telling applications from lists -/

/-- A written application has no items. -/
theorem member?_items_toJson (app : Application) : app.toJson.member? "items" = none := by
  have hplain : Members.get? [("apiVersion", .string app.apiVersion), ("kind", .string app.kind),
      ("metadata", app.metadata.toJson)] "items" = none := rfl
  have hstatus : Members.get? [("status", app.status.toJson)] "items" = none := rfl
  simp only [Application.toJson, Json.member?, Members.get?_append, Members.get?_optional, hplain, hstatus,
    String.reduceEq, if_false, Option.or_none]

/-- An application that is read of its JSON gives the table that it gives itself. -/
theorem render_untyped_application {app : Application} (h : app.Rereads) :
    render (.untyped app.toJson) headers resource now = render (.application app) headers resource now := by
  have hobject : app.toJson.isObject = true := rfl
  rw [render, render, hobject, member?_items_toJson]
  simp only [Bool.not_true, Bool.false_eq_true, if_false, Option.map_none, Option.getD_none,
    Application.ofJson?_toJson h]

/-- A list that is read of its JSON gives the table that it gives itself. -/
theorem render_untyped_list {list : ApplicationList} (h : list.Rereads) :
    render (.untyped list.toJson) headers resource now = render (.list list) headers resource now := by
  have hobject : list.toJson.isObject = true := rfl
  have hitems : ((list.toJson.member? "items").map Json.isArray).getD false = true := rfl
  rw [render, render, hobject, hitems]
  simp only [Bool.not_true, Bool.false_eq_true, if_false, if_true, ApplicationList.ofJson?_toJson h]

/-! ### Rows -/

/-- What is told about readiness: the status of the first condition about it, and `Unknown` when there is none. -/
def ReadyCell (conditions : List Condition) (cell : String) : Prop :=
  (∃ before c after, conditions = before ++ c :: after ∧ (∀ earlier ∈ before, earlier.type ≠ "Ready") ∧
    c.type = "Ready" ∧ cell = c.status.toText) ∨
  ((∀ c ∈ conditions, c.type ≠ "Ready") ∧ cell = "Unknown")

/-- A row shows an application at a moment: its name, its readiness, its age and its version, in this order, and the
written application itself. -/
structure Shows (now : Timestamp) (app : Application) (row : TableRow) : Prop where
  object : row.object = app.toJson
  cells : ∃ ready age version, row.cells = [app.name, ready, age, version] ∧
    ReadyCell app.status.conditions ready ∧
    (∀ created, app.metadata.creationTimestamp = some created → age = (now.since created).ageText) ∧
    (app.metadata.creationTimestamp = none → age = "<unknown>") ∧
    version = if app.status.version = "" then "<unknown>" else app.status.version

private theorem readyCell_readyStatus (app : Application) : ReadyCell app.status.conditions app.readyStatus.toText := by
  rw [Application.readyStatus]
  cases hfind : app.status.conditions.find? (·.type == Condition.ready) with
  | none =>
    refine .inr ⟨fun c hc => ?_, rfl⟩
    simpa [Condition.ready] using List.find?_eq_none.mp hfind c hc
  | some c =>
    obtain ⟨hready, before, after, hconditions, hbefore⟩ := List.find?_eq_some_iff_append.mp hfind
    refine .inl ⟨before, c, after, hconditions, fun earlier he => ?_, ?_, rfl⟩
    · simpa [Condition.ready] using hbefore earlier he
    · simpa [Condition.ready] using hready

/-- A row shows its application. -/
theorem row_shows (now : Timestamp) (app : Application) : Shows now app (row now app) where
  object := rfl
  cells := by
    refine ⟨_, _, _, rfl, readyCell_readyStatus app, fun created hcreated => ?_, fun hnone => ?_, ?_⟩
    · simp only [hcreated]
    · simp only [hnone, unknown]
    · simp only [String.isEmpty_iff, unknown]

/-- The table of applications that are shown, alone or as a list, is made of their written form just as of themselves.
It has one row for each application, in the order of the list, and each row shows its application. -/
theorem untyped_tables_agree (d : ResourceDefinition) {releases : List Release}
    (hread : ∀ r ∈ releases, ∃ record, Release.ofRecord record = .ok r) (version : Option String) (headers : Bool)
    (resource : String) (now : Timestamp) :
    let apps := releases.map d.toApplication
    let list := ApplicationList.ofItems d.application.kind version apps
    render (.untyped list.toJson) headers resource now = render (.list list) headers resource now ∧
      (∃ table, render (.list list) headers resource now = .ok table ∧ List.Forall₂ (Shows now) apps table.rows) ∧
      ∀ app ∈ apps,
        render (.untyped app.toJson) headers resource now = render (.application app) headers resource now ∧
          ∃ table row, render (.application app) headers resource now = .ok table ∧ table.rows = [row] ∧
            Shows now app row := by
  intro apps list
  have hrereads : ∀ app ∈ apps, app.Rereads := by
    intro app happ
    obtain ⟨r, hr, rfl⟩ := List.mem_map.mp happ
    obtain ⟨record, hrecord⟩ := hread r hr
    exact d.toApplication_rereads (Release.rereads_of_ofRecord hrecord)
  have hlist : list.Rereads := ⟨ListMeta.ofJson?_toJson (by rintro n ⟨⟩), hrereads⟩
  refine ⟨render_untyped_list hlist, ⟨_, rfl, ?_⟩, fun app happ => ?_⟩
  · show List.Forall₂ (Shows now) apps (apps.map (row now))
    rw [List.forall₂_map_right_iff]
    exact List.forall₂_same.mpr fun app _ => row_shows now app
  · exact ⟨render_untyped_application (hrereads app happ), _, _, rfl, rfl, row_shows now app⟩

/-- A release of another writer, whose times have fractions and whose status text is unknown, in a table of its written
application. -/
theorem foreign_release_in_a_table :
    let now : Timestamp := ⟨1735689690, 0⟩
    ∃ r table, Release.ofRecord Release.foreignRecord = .ok r ∧
      render (.untyped (sampleType.toApplication r).toJson) true "webs.apps.cozystack.io" now = .ok table ∧
      table.rows.map (·.cells) = [["myapp-shop", "Unknown", "90s", "1.2.0"]] := by
  intro now
  have hcells : (Release.ofRecord Release.foreignRecord).toOption.map
      (fun r => (row now (sampleType.toApplication r)).cells) = some ["myapp-shop", "Unknown", "90s", "1.2.0"] := by
    decide +kernel
  cases hr : Release.ofRecord Release.foreignRecord with
  | error fault =>
    rw [hr] at hcells
    cases hcells
  | ok r =>
    rw [hr] at hcells
    have hread : ∀ r' ∈ [r], ∃ record, Release.ofRecord record = .ok r' := by
      intro r' hr'
      exact ⟨Release.foreignRecord, List.mem_singleton.mp hr' ▸ hr⟩
    obtain ⟨-, -, happs⟩ := untyped_tables_agree sampleType hread none true "webs.apps.cozystack.io" now
    obtain ⟨heq, -⟩ := happs (sampleType.toApplication r) (by simp)
    refine ⟨r, _, rfl, heq.trans rfl, ?_⟩
    rw [← Option.some.inj hcells]
    rfl

end Table

end AppGateway
