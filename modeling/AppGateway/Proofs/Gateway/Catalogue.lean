import AppGateway.Proofs.Backing.Memory
import AppGateway.Proofs.Gateway.Request
import AppGateway.Proofs.Gateway.Written
import AppGateway.Proofs.Mapping
import AppGateway.Proofs.Sample

/-!
# The gateway as a plain map of applications

A `Catalogue` maps the names of applications to what clients have put there: the values, the version of the
application and the resource version.  `Catalogue.answer` says what each call does to it.  A call that writes takes the
resource version from the store; `Catalogue.run` is given all of them in advance.

The main result, `refines_catalogue`, is that nothing else is to be seen through the gateway: on an empty namespace of
a store that is a map itself, every sequence of calls is answered as by the catalogue.

* (relation) `Shows`: each object of the namespace is the written form of a release of the type that shows the entry;
* (step) `perform_agrees`: a call keeps the relation, and is answered as by the catalogue;
* (run) `trace_agrees`: so is a sequence of calls.
-/

namespace AppGateway

/-- What clients see of an application. -/
structure ApplicationView where
  name : Option String
  ns : Option String
  spec : Option Json
  appVersion : String
  resourceVersion : Option String

def Application.view (app : Application) : ApplicationView where
  name := app.metadata.name
  ns := app.metadata.ns
  spec := app.spec
  appVersion := app.appVersion
  resourceVersion := app.metadata.resourceVersion

/-- What clients see of a reply. -/
inductive ReplyView where
  | one (app : ApplicationView)
  | many (apps : List ApplicationView)
  | stored (app : ApplicationView) (created : Bool)
  | gone

def ApplicationReply.view : ApplicationReply → ReplyView
  | .one app => .one app.view
  | .many list => .many (list.items.map Application.view)
  | .stored app created => .stored app.view created
  | .gone => .gone

/-- The kinds of failures; a refusal of the store is told with its status code. -/
inductive FailureKind where
  | namespaceRequired
  | conversion
  | notFound
  | refused (code : Nat)
  | broken
  | notAcceptable
  | badRequest
  | resourceNotFound

def Failure.kind : Failure → FailureKind
  | .namespaceRequired _ => .namespaceRequired
  | .conversion .. => .conversion
  | .backingNotFound .. => .notFound
  | .backingFailed _ _ (.api e) => .refused e.code
  | .backingFailed .. => .broken
  | .notAcceptable .. => .notAcceptable
  | .badRequest _ => .badRequest
  | .resourceNotFound _ => .resourceNotFound

/-- What clients see of the result of a call. -/
abbrev Outcome := Except FailureKind ReplyView

def Outcome.of : Except Failure ApplicationReply → Outcome
  | .ok reply => .ok reply.view
  | .error failure => .error failure.kind

/-! ### Catalogues -/

/-- What a catalogue holds of an application. -/
structure CatalogueEntry where
  spec : Option Json
  appVersion : String
  resourceVersion : String

/-- The entry of an application with a resource version. -/
def CatalogueEntry.ofApplication (app : Application) (version : String) : CatalogueEntry :=
  ⟨app.spec, app.appVersion, version⟩

/-- What clients see of an entry. -/
def CatalogueEntry.view (ns name : String) (e : CatalogueEntry) : ApplicationView :=
  ⟨some name, some ns, e.spec, e.appVersion, some e.resourceVersion⟩

/-- A map of applications in the order of their creation. -/
abbrev Catalogue := Directory CatalogueEntry

/-- A call on a catalogue.  An update puts an application in place, whatever is there. -/
inductive CatalogueCall where
  | create (app : Application)
  | get (name : String)
  | list (version : Option String)
  | update (name : String) (app : Application)
  | delete (name : String)

namespace CatalogueCall

/-- The call as it is made through the gateway. -/
def toCall : CatalogueCall → ApplicationCall
  | .create app => .create app
  | .get name => .get name
  | .list version => .list { resourceVersion := version }
  | .update name app => .update name (fun _ => .ok app) true
  | .delete name => .delete name

/-- The application that a call brings, if any, was read from JSON. -/
def Decoded : CatalogueCall → Prop
  | .create app => ∃ j, Application.ofJson? j = some app
  | .update _ app => ∃ j, Application.ofJson? j = some app
  | _ => True

end CatalogueCall

/-- What a catalogue makes of a call: either it is settled at once, or it depends on a new resource version. -/
inductive CatalogueStep where
  | settled (outcome : Outcome) (after : Catalogue)
  | versioned (f : String → Outcome × Catalogue)

namespace Catalogue

/-- Puts an application under a name. -/
def put (c : Catalogue) (ns name : String) (app : Application) (reply : ApplicationView → ReplyView) :
    CatalogueStep :=
  .versioned fun version =>
    (.ok (reply ((CatalogueEntry.ofApplication app version).view ns name)),
      c.set name (.ofApplication app version))

/-- Whether an application names another resource version than the one that is there. -/
def stale (app : Application) (e : CatalogueEntry) : Bool :=
  match app.metadata.resourceVersion with
  | some version => version != "" && version != e.resourceVersion
  | none => false

/-- What a call does to a catalogue of the applications in a namespace. -/
def answer (ns : String) (c : Catalogue) : CatalogueCall → CatalogueStep
  | .create app =>
    match app.addressedName? none ns with
    | none => .settled (.error .badRequest) c
    | some name =>
      match c.find? name with
      | some _ => .settled (.error (.refused 409)) c
      | none => put c ns name app .one
  | .get name =>
    match c.find? name with
    | some e => .settled (.ok (.one (e.view ns name))) c
    | none => .settled (.error .notFound) c
  | .list _ => .settled (.ok (.many (c.entries.map fun e => e.2.view ns e.1))) c
  | .update name app =>
    match app.addressedName? (some name) ns with
    | none => .settled (.error .badRequest) c
    | some _ =>
      match c.find? name with
      | some e => if stale app e then .settled (.error (.refused 409)) c else put c ns name app (.stored · false)
      | none => put c ns name app (.stored · true)
  | .delete name =>
    match c.find? name with
    | some _ => .settled (.ok .gone) (c.erase name)
    | none => .settled (.error .notFound) c

/-- Runs calls on a catalogue, the writes among them taking the given resource versions one after another; none if
there are too few. -/
def run (ns : String) (c : Catalogue) (versions : List String) : List CatalogueCall → Option (List Outcome)
  | [] => some []
  | call :: calls =>
    match answer ns c call, versions with
    | .settled outcome after, versions => (run ns after versions calls).map (outcome :: ·)
    | .versioned f, version :: versions => (run ns (f version).2 versions calls).map ((f version).1 :: ·)
    | .versioned _, [] => none

end Catalogue

/-! ### The relation -/

section

variable {σ : Type} {d : ResourceDefinition} {b : BackingStore σ} {issued : σ → String → Prop} {s : σ}
  {ns name : String} {c : Catalogue}

/-- A stored object is the written form of a release of the type that shows an entry under a name. -/
def Backs (d : ResourceDefinition) (ns name : String) (j : Json) (e : CatalogueEntry) : Prop :=
  ∃ r : Release, r.Rereads ∧ d.inScope r = true ∧ j = r.toJson ∧ (d.toApplication r).view = e.view ns name

/-- The objects of a namespace show a catalogue. -/
def Shows (d : ResourceDefinition) (ns : String) (stored : Directory Json) (c : Catalogue) : Prop :=
  Directory.Related d.names.toBacking (Backs d ns) stored c

/-- The record that is sent for an application in place of a release. -/
def sent (d : ResourceDefinition) (ns name : String) (app : Application) (stored : Option Release) : Record :=
  (d.toRelease (app.addressedAs name ns) stored).toStored

private theorem name_sent (d : ResourceDefinition) (ns name : String) (app : Application) (stored : Option Release) :
    (sent d ns name app stored).name = d.names.toBacking name := rfl

/-- What is sent for an application shows what the application says, once the store has given it a version. -/
private theorem backs_sent {app : Application} (happ : app.spec ≠ some .null) {stored : Option Release}
    (hstored : ∀ r, stored = some r → r.Rereads) (v : String) :
    Backs d ns name (MemoryStore.withVersion v (sent d ns name app stored).toJson) (.ofApplication app v) := by
  refine ⟨_, (d.toRelease_rereads (app.addressedAs name ns) happ hstored).versioned v, ?_, ?_, ?_⟩
  · rw [d.inScope_versioned, d.inScope_toRelease]
  · rw [sent, Release.toStored_toJson, Release.withVersion_toJson]
  · have hname : d.names.toSynthetic (d.names.toBacking name) = name := d.names.toSynthetic_toBacking name
    have hversion : (if app.appVersion.isEmpty then none else some app.appVersion).getD "" = app.appVersion := by
      by_cases hempty : app.appVersion.isEmpty
      · rw [if_pos hempty, Option.getD_none, String.isEmpty_iff.mp hempty]
      · rw [if_neg hempty, Option.getD_some]
    show ApplicationView.mk (some (d.names.toSynthetic (d.names.toBacking name))) (some ns) app.spec
      ((if app.appVersion.isEmpty then none else some app.appVersion).getD "") (some v) = _
    rw [hname, hversion]
    rfl

/-! ### Answers -/

private theorem fetched_toJson {operation : Operation} {r : Release} (h : r.Rereads) (hscope : d.inScope r = true) :
    d.fetched operation name (MemoryStore.asRecord (.ok r.toJson)) = .ok r := by
  have hsettled := Release.settled_of_rereads h
  rw [d.fetched_settled (hsettled.symm ▸ h), if_pos hscope, hsettled]

private theorem projected_toJson {operation : Operation} {r : Release} (h : r.Rereads) :
    d.projected operation name (MemoryStore.asRecord (.ok r.toJson)) = .ok (d.toApplication r) := by
  have hsettled := Release.settled_of_rereads h
  rw [d.projected_settled (hsettled.symm ▸ h), hsettled]

/-- The answer to a write shows the entry that backs what was written. -/
private theorem projected_of_backs {j : Json} {e : CatalogueEntry} (h : Backs d ns name j e) (operation : Operation) :
    ∃ app, d.projected operation name (MemoryStore.asRecord (.ok j)) = .ok app ∧ app.view = e.view ns name := by
  obtain ⟨r, hr, _, rfl, hview⟩ := h
  exact ⟨_, projected_toJson hr, hview⟩

private theorem kind_ofBacking_of_conflict {operation : Operation} {e : ErrorResponse} (h : e.code = 409) :
    (Failure.ofBacking operation name (.api e)).kind = .refused 409 := by
  rw [Failure.ofBacking, if_neg (by rw [h]; decide), Failure.kind, h]

/-! ### One call -/

/-- A call is answered as a catalogue has it, and keeps the relation; a version that it takes is a new one. -/
def Agrees (b : BackingStore σ) (issued : σ → String → Prop) (d : ResourceDefinition) (ns : String) (s : σ)
    (result : Except Failure ApplicationReply × σ) : CatalogueStep → Prop
  | .settled outcome after => Outcome.of result.1 = outcome ∧ Shows d ns (b.contents result.2 ns) after
  | .versioned f => ∃ v, (v ≠ "" ∧ ¬ issued s v ∧ issued result.2 v) ∧
      Outcome.of result.1 = (f v).1 ∧ Shows d ns (b.contents result.2 ns) (f v).2

private theorem Shows.find? (h : Shows d ns (b.contents s ns) c) (name : String) :
    (b.find? s ns (d.names.toBacking name) = none ∧ c.find? name = none) ∨
      ∃ j e, b.find? s ns (d.names.toBacking name) = some j ∧ c.find? name = some e ∧ Backs d ns name j e :=
  Directory.Related.find? d.names.toBacking_injective h name

/-- A write that the store takes agrees with putting the application in the catalogue. -/
theorem put_agrees (hshows : Shows d ns (b.contents s ns) c) {name : String} {app : Application}
    (happ : app.spec ≠ some .null) {stored : Option Release} (hstored : ∀ r, stored = some r → r.Rereads)
    {v : String} {s' : σ} (hv : v ≠ "" ∧ ¬ issued s v ∧ issued s' v) {answer : Except BackingError Record}
    (hanswer : answer = MemoryStore.asRecord (.ok (MemoryStore.withVersion v (sent d ns name app stored).toJson)))
    (hcontents : b.contents s' ns = (b.contents s ns).set (d.names.toBacking name)
      (MemoryStore.withVersion v (sent d ns name app stored).toJson))
    (operation : Operation) {reply : Application → ApplicationReply} {see : ApplicationView → ReplyView}
    (hsee : ∀ app, (reply app).view = see app.view) :
    Agrees b issued d ns s ((d.projected operation name answer).map reply, s') (c.put ns name app see) := by
  have hbacks : Backs d ns name (MemoryStore.withVersion v (sent d ns name app stored).toJson) (.ofApplication app v) :=
    backs_sent happ hstored v
  obtain ⟨shown, hproject, hview⟩ := projected_of_backs hbacks operation
  refine ⟨v, hv, ?_, ?_⟩
  · rw [hanswer, hproject]
    show Except.ok (reply shown).view = _
    rw [hsee, hview]
  · rw [hcontents]
    exact Directory.Related.set d.names.toBacking_injective hshows hbacks

/-- A write that the store refuses agrees with a refusal. -/
theorem refused_agrees (hshows : Shows d ns (b.contents s ns) c) {s' : σ} {answer : Except BackingError Record}
    (hanswer : ∃ e : ErrorResponse, e.code = 409 ∧ answer = .error (.api e))
    (hcontents : b.contents s' ns = b.contents s ns) (operation : Operation) (name : String)
    (reply : Application → ApplicationReply) :
    Agrees b issued d ns s ((d.projected operation name answer).map reply, s')
      (.settled (.error (.refused 409)) c) := by
  obtain ⟨e, hcode, rfl⟩ := hanswer
  exact ⟨congrArg Except.error (kind_ofBacking_of_conflict hcode), hcontents ▸ hshows⟩

private theorem create_agrees (h : b.Faithful issued) (hns : ns ≠ "") (hshows : Shows d ns (b.contents s ns) c)
    {app : Application} (happ : app.spec ≠ some .null) :
    Agrees b issued d ns s (d.perform b (some ns) (.create app) s) (c.answer ns (.create app)) := by
  rw [Catalogue.answer]
  cases hfit : app.addressedName? none ns with
  | none =>
    obtain ⟨message, hm⟩ := d.createdRecord_of_none hfit
    rw [ResourceDefinition.perform_create_of_error b hns hm]
    exact ⟨rfl, hshows⟩
  | some name =>
    have hsent : d.createdRecord ns app = .ok (name, sent d ns name app none) := d.createdRecord_of_some hfit
    rw [ResourceDefinition.perform_create_of_ok b hns hsent]
    rcases hshows.find? name with ⟨hmissing, hc⟩ | ⟨j, e, hj, hc, _⟩
    · rw [← name_sent d ns name app none] at hmissing
      obtain ⟨v, hne, hfresh, hissued, hreply, hcontents⟩ := h.create_absent hmissing
      simp only [hc]
      exact put_agrees hshows happ (by simp) ⟨hne, hfresh, hissued⟩ hreply hcontents .create fun _ => rfl
    · -- There is an entry, so there is an object, and the store refuses to create another.
      rw [← name_sent d ns name app none] at hj
      simp only [hc]
      have hrefused := h.create_present hj
      exact refused_agrees hshows hrefused.1 hrefused.2 .create name .one

private theorem get_agrees (h : b.Faithful issued) (hns : ns ≠ "") (hshows : Shows d ns (b.contents s ns) c)
    (name : String) : Agrees b issued d ns s (d.perform b (some ns) (.get name) s) (c.answer ns (.get name)) := by
  rw [ResourceDefinition.perform_get b hns, Catalogue.answer]
  rcases hshows.find? name with ⟨hmissing, hc⟩ | ⟨j, e, hj, hc, r, hr, hscope, rfl, hview⟩
  · obtain ⟨⟨refusal, hcode, hreply⟩, hcontents⟩ := h.get_missing hmissing
    rw [hreply, d.fetched_of_missing hcode, hc]
    exact ⟨rfl, hcontents ▸ hshows⟩
  · obtain ⟨hreply, hcontents⟩ := h.get_present hj
    rw [hreply, fetched_toJson hr hscope, hc]
    exact ⟨congrArg (Except.ok ∘ ReplyView.one) hview, hcontents ▸ hshows⟩

/-- The objects of a namespace that show a catalogue are listed as its entries, in order. -/
private theorem listed_of_shows {stored : Directory Json} (hshows : Shows d ns stored c) :
    ∃ records, (stored.entries.map (·.2)).mapM Record.ofJson? = some records ∧
      (records.filterMap d.shown?).map Application.view = c.entries.map fun e => e.2.view ns e.1 := by
  rw [Shows, Directory.Related] at hshows
  generalize stored.entries = entries, c.entries = entries' at hshows ⊢
  -- No object of the namespace is dropped from the list: all of them are releases of the type.
  induction hshows with
  | nil => exact ⟨[], rfl, rfl⟩
  | @cons e e' rest rest' he _ ih =>
    obtain ⟨_, r, hr, hscope, hjson, hview⟩ := he
    obtain ⟨records, hrecords, hviews⟩ := ih
    have hread : Record.ofJson? e.2 = some r.toStored := by
      rw [hjson, Release.record_ofJson?_toJson, ObjectMeta.ofJson?_toJson hr.metadata]
      rfl
    have hshown : d.shown? r.toStored = some (d.toApplication r) := by
      rw [ResourceDefinition.shown?, Release.ofRecord_toStored hr]
      exact if_pos hscope
    refine ⟨r.toStored :: records, ?_, ?_⟩
    · rw [List.map_cons, List.mapM_cons, hread, hrecords]
      rfl
    · rw [List.filterMap_cons_some hshown, List.map_cons, List.map_cons, hview, hviews]

private theorem list_agrees (h : b.Faithful issued) (hns : ns ≠ "") (hshows : Shows d ns (b.contents s ns) c)
    (version : Option String) :
    Agrees b issued d ns s (d.perform b (some ns) (.list { resourceVersion := version }) s)
      (c.answer ns (.list version)) := by
  rw [ResourceDefinition.perform_list b hns, Catalogue.answer]
  obtain ⟨⟨listed, hreply⟩, hcontents⟩ := h.list_all s ns
  obtain ⟨records, hrecords, hviews⟩ := listed_of_shows hshows
  have hlist : b.reply (.list ns none none) s = .ok ⟨listed, records⟩ := by
    rw [hreply, MemoryStore.asList, hrecords]
  rw [hlist]
  exact ⟨congrArg (Except.ok ∘ ReplyView.many) hviews, hcontents ▸ hshows⟩

/-- What agrees after a read agrees before it. -/
private theorem Agrees.of_after (h : b.Faithful issued) {call : BackingCall}
    {result : Except Failure ApplicationReply × σ}
    {step : CatalogueStep} (hagrees : Agrees b issued d ns (b.after call s) result step) :
    Agrees b issued d ns s result step := by
  cases step with
  | settled outcome after => exact hagrees
  | versioned f =>
    obtain ⟨v, ⟨hne, hfresh, hissued⟩, hrest⟩ := hagrees
    exact ⟨v, ⟨hne, fun hv => hfresh (h.issued_mono call hv), hissued⟩, hrest⟩

private theorem delete_agrees (h : b.Faithful issued) (hns : ns ≠ "") (hshows : Shows d ns (b.contents s ns) c)
    (name : String) : Agrees b issued d ns s (d.perform b (some ns) (.delete name) s) (c.answer ns (.delete name)) := by
  rw [ResourceDefinition.perform, ResourceDefinition.action, Action.run_map, d.delete_run hns, Catalogue.answer,
    Exchange.run]
  rcases hshows.find? name with ⟨hmissing, hc⟩ | ⟨j, e, hj, hc, r, hr, hscope, rfl, _⟩
  · obtain ⟨⟨refusal, hcode, hreply⟩, hcontents⟩ := h.get_missing hmissing
    have hfetched : d.fetched .delete name (b.reply (.get ns (d.names.toBacking name)) s) =
        .error (.backingNotFound name refusal) := by rw [hreply, d.fetched_of_missing hcode]
    rw [BackingStore.reply] at hfetched
    rw [hfetched, hc]
    exact ⟨rfl, hcontents ▸ hshows⟩
  · obtain ⟨hreply, hcontents⟩ := h.get_present hj
    have hfetched : d.fetched .delete name (b.reply (.get ns (d.names.toBacking name)) s) = .ok r := by
      rw [hreply, fetched_toJson hr hscope]
    rw [BackingStore.reply] at hfetched
    rw [hfetched, hc]
    obtain ⟨hreply', hcontents'⟩ := h.delete_present ((h.find?_after_get _ _ _ _).trans hj)
    refine ⟨?_, ?_⟩
    · show Outcome.of (((b.reply (.delete ns (d.names.toBacking name))
        (b.after (.get ns (d.names.toBacking name)) s)).mapError _).map _) = _
      rw [hreply']
      rfl
    · show Shows d ns (b.contents (b.after (.delete ns (d.names.toBacking name))
        (b.after (.get ns (d.names.toBacking name)) s)) ns) _
      rw [hcontents', hcontents]
      exact Directory.Related.erase d.names.toBacking_injective hshows name

/-- The version that is sent in place of a release is stale when the application names another one. -/
private theorem sent_stale {app : Application} {e : CatalogueEntry} (hstale : Catalogue.stale app e = true)
    (ns name : String) (r : Release) :
    ∃ v, (sent d ns name app (some r)).metadata.resourceVersion = some v ∧ v ≠ "" ∧ v ≠ e.resourceVersion := by
  rw [Catalogue.stale] at hstale
  cases hv : app.metadata.resourceVersion with
  | none => simp [hv] at hstale
  | some v =>
    simp only [hv, Bool.and_eq_true, bne_iff_ne] at hstale
    refine ⟨v, ?_, hstale⟩
    show app.metadata.resourceVersion.or _ = _
    rw [hv, Option.some_or]

private theorem sent_current {app : Application} {r : Release} {e : CatalogueEntry}
    (hr : r.metadata.resourceVersion = some e.resourceVersion) (hstale : Catalogue.stale app e = false) (v : String)
    (hv : (sent d ns name app (some r)).metadata.resourceVersion = some v) : v = "" ∨ v = e.resourceVersion := by
  replace hv : app.metadata.resourceVersion.or r.metadata.resourceVersion = some v := hv
  rw [Catalogue.stale] at hstale
  cases happ : app.metadata.resourceVersion with
  | none =>
    rw [happ, Option.none_or, hr] at hv
    exact .inr (Option.some.inj hv).symm
  | some given =>
    rw [happ, Option.some_or] at hv
    cases hv
    by_contra hne
    rw [not_or] at hne
    simp [happ, hne] at hstale

/-- The second half of an update, in a state in which the object is stored as it was found. -/
private theorem store_agrees (h : b.Faithful issued) (hshows : Shows d ns (b.contents s ns) c) {app : Application}
    (happ : app.spec ≠ some .null) {stored : Option Release}
    (hstored : (stored = none ∧ b.find? s ns (d.names.toBacking name) = none ∧ c.find? name = none) ∨
      ∃ r e, stored = some r ∧ r.Rereads ∧ b.find? s ns (d.names.toBacking name) = some r.toJson ∧
        c.find? name = some e ∧ r.metadata.resourceVersion = some e.resourceVersion) :
    Agrees b issued d ns s
      ((((d.storeRecord ns name stored (sent d ns name app stored)).run b.answer s).1.map fun w => .stored w.1 w.2),
        ((d.storeRecord ns name stored (sent d ns name app stored)).run b.answer s).2)
      (match c.find? name with
        | some e =>
          if Catalogue.stale app e then .settled (.error (.refused 409)) c else c.put ns name app (.stored · false)
        | none => c.put ns name app (.stored · true)) := by
  rcases hstored with ⟨rfl, hmissing, hc⟩ | ⟨r, e, rfl, hr, hj, hc, hv⟩
  · rw [hc]
    rw [← name_sent d ns name app none] at hmissing
    obtain ⟨v, hne, hfresh, hissued, hreply, hcontents⟩ := h.create_absent hmissing
    show Agrees b issued d ns s
      (((d.projected .update name (b.reply (.create ns (sent d ns name app none)) s)).map (·, true)).map _,
        b.after (.create ns (sent d ns name app none)) s) _
    rw [Except.map_map]
    exact put_agrees hshows happ (by simp) ⟨hne, hfresh, hissued⟩ hreply hcontents .update fun _ => rfl
  · rw [hc]
    show Agrees b issued d ns s
      (((d.projected .update name
        (b.reply (.replace ns (d.names.toBacking name) (sent d ns name app (some r))) s)).map (·, false)).map _,
        b.after (.replace ns (d.names.toBacking name) (sent d ns name app (some r))) s) _
    rw [Except.map_map]
    have hversion : storedVersion r.toJson = e.resourceVersion := by
      rw [Release.storedVersion_toJson, hv, Option.getD_some]
    cases hstale : Catalogue.stale app e with
    | true =>
      obtain ⟨v, hsent, hne, hother⟩ := sent_stale (d := d) hstale ns name r
      have hrefused := h.replace_stale hj hsent hne (hversion.symm ▸ hother)
      simp only [hstale, if_true]
      exact refused_agrees hshows hrefused.1 hrefused.2 .update name _
    | false =>
      obtain ⟨v, hne, hfresh, hissued, hreply, hcontents⟩ :=
        h.replace_current hj fun v hsent => hversion.symm ▸ sent_current hv hstale v hsent
      simp only [hstale, Bool.false_eq_true, if_false]
      exact put_agrees hshows happ (fun r' hr' => Option.some.inj hr' ▸ hr) ⟨hne, hfresh, hissued⟩ hreply hcontents
        .update fun _ => rfl

private theorem update_agrees (h : b.Faithful issued) (hns : ns ≠ "") (hshows : Shows d ns (b.contents s ns) c)
    (name : String) {app : Application} (happ : app.spec ≠ some .null) :
    Agrees b issued d ns s (d.perform b (some ns) (.update name (fun _ => .ok app) true) s)
      (c.answer ns (.update name app)) := by
  rw [ResourceDefinition.perform, ResourceDefinition.action, Action.run_map, d.update_run hns, Catalogue.answer]
  have hcontents := h.contents_after_get s ns (d.names.toBacking name)
  -- The get finds the release or none.
  obtain ⟨stored, hfound, hrereads, hstored⟩ :
      ∃ stored, d.fetchedForUpdate name true (b.reply (.get ns (d.names.toBacking name)) s) = .ok stored ∧
        (∀ r, stored = some r → r.Rereads) ∧
        ((stored = none ∧ b.find? s ns (d.names.toBacking name) = none ∧ c.find? name = none) ∨
          ∃ r e, stored = some r ∧ r.Rereads ∧ b.find? s ns (d.names.toBacking name) = some r.toJson ∧
            c.find? name = some e ∧ r.metadata.resourceVersion = some e.resourceVersion) := by
    rcases hshows.find? name with ⟨hmissing, hc⟩ | ⟨j, e, hj, hc, r, hr, hscope, rfl, hview⟩
    · obtain ⟨⟨refusal, hcode, hreply⟩, -⟩ := h.get_missing hmissing
      refine ⟨none, ?_, by simp, .inl ⟨rfl, hmissing, hc⟩⟩
      rw [ResourceDefinition.fetchedForUpdate, hreply, d.fetched_of_missing hcode]
      rfl
    · refine ⟨some r, ?_, fun r' hr' => Option.some.inj hr' ▸ hr, .inr ⟨r, e, rfl, hr, hj, hc, ?_⟩⟩
      · rw [ResourceDefinition.fetchedForUpdate, (h.get_present hj).1, fetched_toJson hr hscope]
      · exact congrArg ApplicationView.resourceVersion hview
  show Agrees b issued d ns s
    (((d.afterFetch ns name (fun _ => .ok app) true (b.reply (.get ns (d.names.toBacking name)) s)).run b.answer
      (b.after (.get ns (d.names.toBacking name)) s)).1.map _,
      ((d.afterFetch ns name (fun _ => .ok app) true (b.reply (.get ns (d.names.toBacking name)) s)).run b.answer
        (b.after (.get ns (d.names.toBacking name)) s)).2) _
  have hrecord : d.updatedRecord ns name (fun _ => .ok app) stored = d.writtenRecord ns name stored app := rfl
  rw [ResourceDefinition.afterFetch, hfound]
  simp only [hrecord]
  cases hfit : app.addressedName? (some name) ns with
  | none =>
    obtain ⟨message, hm⟩ := d.writtenRecord_of_none stored hfit
    rw [hm]
    exact ⟨rfl, hcontents ▸ hshows⟩
  | some n =>
    cases ResourceDefinition.addressedName?_eq hfit
    rw [d.writtenRecord_of_some hfit,
      ResourceDefinition.writeRelease_of_settled (d.toRelease_settled_rereads (app.addressedAs name ns) hrereads)]
    refine Agrees.of_after h (store_agrees h (hcontents ▸ hshows) happ ?_)
    rw [h.find?_after_get]
    exact hstored

/-! ### Runs -/

/-- A call is answered as a catalogue has it. -/
theorem perform_agrees (h : b.Faithful issued) (hns : ns ≠ "") (hshows : Shows d ns (b.contents s ns) c)
    {call : CatalogueCall} (hcall : call.Decoded) :
    Agrees b issued d ns s (d.perform b (some ns) call.toCall s) (c.answer ns call) := by
  cases call with
  | create app =>
    obtain ⟨j, hj⟩ := hcall
    exact create_agrees h hns hshows (Application.spec_ne_null hj)
  | get name => exact get_agrees h hns hshows name
  | list version => exact list_agrees h hns hshows version
  | update name app =>
    obtain ⟨j, hj⟩ := hcall
    exact update_agrees h hns hshows name (Application.spec_ne_null hj)
  | delete name => exact delete_agrees h hns hshows name

private theorem issued_run (h : b.Faithful issued) {α : Type} {v : String} (hv : issued s v) (e : Exchange α) :
    issued (e.run b.answer s).2 v := by
  induction e generalizing s with
  | done a => exact hv
  | call call next ih => exact ih _ (h.issued_mono call hv)

/-- A sequence of calls is answered as by the catalogue that the namespace shows. -/
theorem trace_agrees (h : b.Faithful issued) (hns : ns ≠ "") (hshows : Shows d ns (b.contents s ns) c)
    {calls : List CatalogueCall} (hcalls : ∀ call ∈ calls, call.Decoded) :
    ∃ versions : List String, versions.Nodup ∧ (∀ v ∈ versions, v ≠ "" ∧ ¬ issued s v) ∧
      c.run ns versions calls =
        some ((d.trace b (calls.map fun call => (some ns, call.toCall)) s).map fun p => Outcome.of p.reply) := by
  induction calls generalizing s c with
  | nil => exact ⟨[], List.nodup_nil, by simp, rfl⟩
  | cons call calls ih =>
    have hstep := perform_agrees h hns hshows (hcalls call (by simp))
    have hissued : ∀ v, issued s v → issued (d.perform b (some ns) call.toCall s).2 v :=
      fun v hv => issued_run h hv _
    have hrest : ∀ call ∈ calls, call.Decoded := fun call hcall => hcalls call (by simp [hcall])
    rw [List.map_cons, ResourceDefinition.trace, List.map_cons]
    generalize d.perform b (some ns) call.toCall s = result at hstep hissued
    cases hanswer : c.answer ns call with
    | settled outcome after =>
      rw [hanswer] at hstep
      obtain ⟨houtcome, hafter⟩ := hstep
      obtain ⟨versions, hnodup, hfresh, hrun⟩ := ih hafter hrest
      refine ⟨versions, hnodup, fun v hv => ?_, ?_⟩
      · exact ⟨(hfresh v hv).1, fun hold => (hfresh v hv).2 (hissued v hold)⟩
      · simp only [Catalogue.run, hanswer, hrun, houtcome]
        rfl
    | versioned f =>
      rw [hanswer] at hstep
      obtain ⟨v, ⟨hne, hnew, hgiven⟩, houtcome, hafter⟩ := hstep
      obtain ⟨versions, hnodup, hfresh, hrun⟩ := ih hafter hrest
      -- The version given out now counts as issued later, so it is not among those to come.
      refine ⟨v :: versions, List.nodup_cons.mpr ⟨fun hmem => (hfresh v hmem).2 hgiven, hnodup⟩, ?_, ?_⟩
      · intro w hw
        rcases List.mem_cons.mp hw with rfl | hw
        · exact ⟨hne, hnew⟩
        · exact ⟨(hfresh w hw).1, fun hold => (hfresh w hw).2 (hissued w hold)⟩
      · simp only [Catalogue.run, hanswer, hrun, houtcome]
        rfl

/-- On an empty namespace of a store that is a map, every sequence of calls with applications read from JSON is answered
as by an empty catalogue, with versions that the store has never given out before. -/
theorem refines_catalogue (h : b.Faithful issued) (d : ResourceDefinition) (hns : ns ≠ "")
    (hempty : b.contents s ns = .empty) (calls : List CatalogueCall) (hcalls : ∀ call ∈ calls, call.Decoded) :
    ∃ versions : List String, versions.Nodup ∧ (∀ v ∈ versions, v ≠ "" ∧ ¬ issued s v) ∧
      Catalogue.run ns .empty versions calls =
        some ((d.trace b (calls.map fun call => (some ns, call.toCall)) s).map fun p => Outcome.of p.reply) := by
  refine trace_agrees h hns ?_ hcalls
  rw [hempty]
  exact Directory.Related.empty

end

/-- In an empty store in memory, an application is got as it was created. -/
theorem got_as_created :
    let s : {s : MemoryStore // s.Sound} := ⟨{}, MemoryStore.sound_empty⟩
    ∃ v, v ≠ "" ∧
      ((sampleType.trace MemoryStore.backing
        [(some "tenant", .create sampleApp), (some "tenant", .get "shop")] s).map fun p => Outcome.of p.reply) =
        [.ok (.one ⟨some "shop", some "tenant", none, "1", some v⟩),
          .ok (.one ⟨some "shop", some "tenant", none, "1", some v⟩)] := by
  intro s
  have hdecoded : ∀ call ∈ [CatalogueCall.create sampleApp, .get "shop"], call.Decoded := by
    intro call hcall
    rcases List.mem_cons.mp hcall with rfl | hcall
    · exact ⟨.object [("metadata", .object [("name", .string "shop"), ("namespace", .string "tenant")]),
        ("appVersion", .string "1")], rfl⟩
    · rw [List.mem_singleton.mp hcall]
      trivial
  obtain ⟨versions, _, hfresh, hrun⟩ :=
    refines_catalogue (s := s) MemoryStore.faithful_backing sampleType (by decide : "tenant" ≠ "") rfl
      [.create sampleApp, .get "shop"] hdecoded
  cases versions with
  | nil => cases hrun
  | cons v versions => exact ⟨v, (hfresh v List.mem_cons_self).1, (Option.some.inj hrun).symm⟩

end AppGateway
