import AppGateway.Proofs.Backing.Memory
import AppGateway.Proofs.Gateway.Request
import AppGateway.Proofs.Gateway.Written

/-!
# The same but for the version

Two stores that were written to in the same way, but not equally often, hold the same releases with different versions.
What is read of them is the same, up to these versions.

* (objects) `SameButVersion`: two stored objects are the same, or written forms of one release;
* (reading) `fetched_alike`, `seen_alike`: a get and a list show the same of such objects;
* (stores) `BackingStore.Uniform`: apart from versions, the store answers by what it holds.
-/

namespace AppGateway

/-- An application without its resource version. -/
def Application.unversioned (app : Application) : Application :=
  { app with metadata := { app.metadata with resourceVersion := none } }

/-- A reply without resource versions. -/
def ApplicationReply.unversioned : ApplicationReply → ApplicationReply
  | .one app => .one app.unversioned
  | .many list => .many {
      list with
      metadata := { list.metadata with resourceVersion := none }
      items := list.items.map Application.unversioned }
  | .stored app created => .stored app.unversioned created
  | .gone => .gone

/-- Two stored objects are the same, or the written form of one release with two versions. -/
def SameButVersion (j j' : Json) : Prop :=
  j = j' ∨ ∃ r : Release, r.settled.Rereads ∧ ∃ v v', j = (r.versioned v).toJson ∧ j' = (r.versioned v').toJson

theorem SameButVersion.symm {j j' : Json} (h : SameButVersion j j') : SameButVersion j' j := by
  rcases h with rfl | ⟨r, hr, v, v', hj, hj'⟩
  · exact .inl rfl
  · exact .inr ⟨r, hr, v', v, hj', hj⟩

namespace BackingStore

variable {σ : Type} (b : BackingStore σ)

/-- The store is a map, its refusals depend on nothing but the call, and a list selects each object by itself, whatever
its version. -/
structure Uniform (issued : σ → String → Prop) (select : Option Selector → Option Selector → Json → Bool) : Prop
    extends b.Faithful issued where
  get_missing_alike : ∀ {s s' ns name}, b.find? s ns name = none → b.find? s' ns name = none →
    b.reply (.get ns name) s = b.reply (.get ns name) s'
  create_present_alike : ∀ {s s' ns record j j'}, b.find? s ns record.name = some j →
    b.find? s' ns record.name = some j' → b.reply (.create ns record) s = b.reply (.create ns record) s'
  list_selected : ∀ s ns labels fields, (∃ version, b.reply (.list ns labels fields) s =
      MemoryStore.asList version (((b.contents s ns).entries.map (·.2)).filter (select labels fields))) ∧
    b.contents (b.after (.list ns labels fields) s) ns = b.contents s ns
  select_versioned : ∀ labels fields (r : Release) (v v' : String),
    select labels fields (r.versioned v).toJson = select labels fields (r.versioned v').toJson

end BackingStore

theorem MemoryStore.uniform_backing : backing.Uniform Issued fun _ _ _ => true where
  toFaithful := faithful_backing
  get_missing_alike {s s' ns name} h h' := by
    rw [backing_find?] at h h'
    show asRecord (s.1.get ns name) = asRecord (s'.1.get ns name)
    rw [get, h, get, h']
  create_present_alike h h' := by
    rw [BackingStore.reply, backing_create_of_present h, BackingStore.reply, backing_create_of_present h']
  list_selected s ns labels fields := by
    rw [List.filter_true]
    exact faithful_backing.list_all s ns
  select_versioned _ _ _ _ _ := rfl

theorem SameButVersion.select_eq {σ : Type} {b : BackingStore σ} {issued : σ → String → Prop}
    {select : Option Selector → Option Selector → Json → Bool} (h : b.Uniform issued select) {j j' : Json}
    (hj : SameButVersion j j') (labels fields : Option Selector) : select labels fields j = select labels fields j' := by
  rcases hj with rfl | ⟨r, -, v, v', rfl, rfl⟩
  · rfl
  · exact h.select_versioned labels fields r v v'

namespace ResourceDefinition

variable {d : ResourceDefinition}

theorem unversioned_versioned (r : Release) (v v' : String) :
    (d.toApplication (r.versioned v)).unversioned = (d.toApplication (r.versioned v')).unversioned := rfl

/-- A get gives the same, up to versions, of objects that are the same but for their versions. -/
theorem fetched_alike {j j' : Json} (h : SameButVersion j j') (operation : Operation) (name : String) :
    (((d.fetched operation name (MemoryStore.asRecord (.ok j))).map d.toApplication).map
        ApplicationReply.one).map ApplicationReply.unversioned =
      (((d.fetched operation name (MemoryStore.asRecord (.ok j'))).map d.toApplication).map
        ApplicationReply.one).map ApplicationReply.unversioned := by
  rcases h with rfl | ⟨r, hr, v, v', rfl, rfl⟩
  · rfl
  · have hsettled := Release.settled_versioned_rereads hr
    rw [d.fetched_settled (hsettled v), d.fetched_settled (hsettled v'), d.inScope_versioned, d.inScope_versioned]
    split
    · exact congrArg (Except.ok ∘ ApplicationReply.one) (unversioned_versioned r.settled v v')
    · rfl

/-- What a list shows of an object, up to its version; none for an object that is no record. -/
def seenOf (d : ResourceDefinition) (j : Json) : Option (Option Application) :=
  (Record.ofJson? j).map fun record => (d.shown? record).map Application.unversioned

/-- What a list shows of objects, up to their versions; none if one of them is no record. -/
def seen (d : ResourceDefinition) (values : List Json) : Option (List Application) :=
  (values.mapM Record.ofJson?).map fun records =>
    records.filterMap fun record => (d.shown? record).map Application.unversioned

theorem seen_cons (j : Json) (rest : List Json) :
    d.seen (j :: rest) = (d.seenOf j).bind fun app? => (d.seen rest).map fun apps => app?.toList ++ apps := by
  rw [seen, seen, seenOf, List.mapM_cons]
  cases Record.ofJson? j with
  | none => rfl
  | some record =>
    cases List.mapM Record.ofJson? rest with
    | none => rfl
    | some records => cases h : d.shown? record <;> simp [h]

/-- A list shows the same of objects that are the same but for their versions. -/
private theorem seenOf_alike {j j' : Json} (h : SameButVersion j j') : d.seenOf j = d.seenOf j' := by
  rcases h with rfl | ⟨r, hr, v, v', rfl, rfl⟩
  · rfl
  · have hsettled := Release.settled_versioned_rereads hr
    rw [seenOf, seenOf, record_settled (hsettled v), record_settled (hsettled v'), Option.map_some, Option.map_some,
      d.shown?_settled (hsettled v), d.shown?_settled (hsettled v'), d.inScope_versioned, d.inScope_versioned]
    split
    · exact congrArg (some ∘ some) (unversioned_versioned r.settled v v')
    · rfl

theorem seen_alike {values values' : List Json} (h : List.Forall₂ SameButVersion values values') :
    d.seen values = d.seen values' := by
  induction h with
  | nil => rfl
  | cons hj _ ih => rw [seen_cons, seen_cons, seenOf_alike hj, ih]

/-- What a list replies, up to versions, when it sees this. -/
def seenReply (d : ResourceDefinition) (ns : String) : Option (List Application) → Except Failure ApplicationReply
  | some apps => .ok (.many (.ofItems d.application.kind none apps))
  | none => .error (Failure.ofBacking .list ns .unreadable)

theorem listed_unversioned (version : Option String) (ns : String) (values : List Json) :
    ((((MemoryStore.asList version values).mapError (Failure.ofBacking .list ns)).map fun found =>
      ApplicationList.ofItems d.application.kind found.resourceVersion (found.items.filterMap d.shown?)).map
        fun list => (ApplicationReply.many list).unversioned) = d.seenReply ns (d.seen values) := by
  rw [MemoryStore.asList, seen]
  cases values.mapM Record.ofJson? with
  | none => rfl
  | some records =>
    have hitems : (records.filterMap d.shown?).map Application.unversioned =
        records.filterMap fun record => (d.shown? record).map Application.unversioned :=
      List.map_filterMap
    show Except.ok (ApplicationReply.many (.ofItems d.application.kind none
      ((records.filterMap d.shown?).map Application.unversioned))) = _
    rw [hitems]
    rfl

end ResourceDefinition

end AppGateway
