import AppGateway.Backing.Memory
import AppGateway.Proofs.Backing.Directory

/-!
# What is asked of a backing store

A `BackingStore` answers calls and shows what it holds: for every namespace, the objects under their names.  Nothing
else is known of it; each property of the gateway names the laws that it needs.

* `Keyed`: a read shows what is stored, a write touches nothing but the record it names, and nothing is created over a
  record that exists;
* `Versioned`: every write gives the record a version never used before, and a replacement is refused unless the
  version it names is the stored one;
* `Faithful`: the store is a map, and every call that it answers with success does what the call says.

Versions that were ever given out are those that `issued` holds of.
-/

namespace AppGateway

namespace BackingCall

/-- The namespace and the name of the record that a call writes. -/
def target? : BackingCall → Option (String × String)
  | .create ns record => some (ns, record.name)
  | .replace ns name _ => some (ns, name)
  | .patch ns name _ => some (ns, name)
  | .delete ns name => some (ns, name)
  | _ => none

end BackingCall

/-- The resource version of a stored object; empty when it has none. -/
def storedVersion (j : Json) : String := MemoryStore.metadataText j "resourceVersion"

/-- A store that answers calls, and what it holds. -/
structure BackingStore (σ : Type) where
  answer : (c : BackingCall) → σ → c.Answer × σ
  contents : σ → String → Directory Json

namespace BackingStore

variable {σ : Type} (b : BackingStore σ)

/-- The object stored under a namespace and a name. -/
def find? (s : σ) (ns name : String) : Option Json := (b.contents s ns).find? name

/-- What a call is answered with. -/
def reply (c : BackingCall) (s : σ) : c.Answer := (b.answer c s).1

/-- What a call makes of the store. -/
def after (c : BackingCall) (s : σ) : σ := (b.answer c s).2

/-- The records of the store have keys that keep them apart. -/
structure Keyed : Prop where
  get_stored : ∀ {s ns name record}, b.reply (.get ns name) s = .ok record →
    ∃ j, b.find? s ns name = some j ∧ Record.ofJson? j = some record
  create_present : ∀ {s ns record j}, b.find? s ns record.name = some j →
    (∃ e, b.reply (.create ns record) s = .error e) ∧
      b.find? (b.after (.create ns record) s) ns record.name = some j
  elsewhere : ∀ {c s ns name}, c.target? ≠ some (ns, name) → b.find? (b.after c s) ns name = b.find? s ns name

/-- A call writes a record when it is meant for it and succeeds or changes it. -/
def Writes (c : BackingCall) (s : σ) (ns name : String) : Prop :=
  c.target? = some (ns, name) ∧
    ((∃ result, b.reply c s = .ok result) ∨ b.find? (b.after c s) ns name ≠ b.find? s ns name)

/-- The store tells by versions which writes came between. -/
structure Versioned (issued : σ → String → Prop) : Prop extends b.Keyed where
  get_version : ∀ {s ns name record j}, b.reply (.get ns name) s = .ok record → b.find? s ns name = some j →
    record.metadata.resourceVersion.getD "" = storedVersion j
  issued_mono : ∀ {s v} c, issued s v → issued (b.after c s) v
  written : ∀ {c s ns name j}, b.Writes c s ns name → b.find? (b.after c s) ns name = some j →
    storedVersion j ≠ "" ∧ ¬ issued s (storedVersion j) ∧ issued (b.after c s) (storedVersion j)
  replace_missing : ∀ {s ns name record}, b.find? s ns name = none →
    (∃ e, b.reply (.replace ns name record) s = .error e) ∧
      b.find? (b.after (.replace ns name record) s) ns name = none
  replace_stale : ∀ {s ns name record j v}, b.find? s ns name = some j → record.metadata.resourceVersion = some v →
    v ≠ "" → v ≠ storedVersion j →
      (∃ e, b.reply (.replace ns name record) s = .error e) ∧
        b.find? (b.after (.replace ns name record) s) ns name = some j

/-- Every record stored has a version that was given out. -/
def Stamped (issued : σ → String → Prop) (s : σ) : Prop :=
  ∀ ns name j, b.find? s ns name = some j → storedVersion j ≠ "" ∧ issued s (storedVersion j)

/-- A call is refused with a status code, and nothing stored in the namespace changes. -/
def Refuses (s : σ) (ns : String) (c : BackingCall) (code : Nat) : Prop :=
  (∃ e : ErrorResponse, e.code = code ∧ b.reply c s = .error (.api e)) ∧ b.contents (b.after c s) ns = b.contents s ns

/-- The store is a map that numbers its writes. -/
structure Faithful (issued : σ → String → Prop) : Prop where
  issued_mono : ∀ {s v} c, issued s v → issued (b.after c s) v
  get_missing : ∀ {s ns name}, b.find? s ns name = none → b.Refuses s ns (.get ns name) 404
  get_present : ∀ {s ns name j}, b.find? s ns name = some j →
    b.reply (.get ns name) s = MemoryStore.asRecord (.ok j) ∧
      b.contents (b.after (.get ns name) s) ns = b.contents s ns
  list_all : ∀ s ns, (∃ version, b.reply (.list ns none none) s =
      MemoryStore.asList version ((b.contents s ns).entries.map (·.2))) ∧
    b.contents (b.after (.list ns none none) s) ns = b.contents s ns
  create_present : ∀ {s ns record j}, b.find? s ns record.name = some j → b.Refuses s ns (.create ns record) 409
  create_absent : ∀ {s ns record}, b.find? s ns record.name = none →
    ∃ v, v ≠ "" ∧ ¬ issued s v ∧ issued (b.after (.create ns record) s) v ∧
      b.reply (.create ns record) s = MemoryStore.asRecord (.ok (MemoryStore.withVersion v record.toJson)) ∧
      b.contents (b.after (.create ns record) s) ns =
        (b.contents s ns).set record.name (MemoryStore.withVersion v record.toJson)
  replace_missing : ∀ {s ns name record}, b.find? s ns name = none → b.Refuses s ns (.replace ns name record) 404
  replace_stale : ∀ {s ns name record j v}, b.find? s ns name = some j → record.metadata.resourceVersion = some v →
    v ≠ "" → v ≠ storedVersion j → b.Refuses s ns (.replace ns name record) 409
  replace_current : ∀ {s ns name record j}, b.find? s ns name = some j →
    (∀ v, record.metadata.resourceVersion = some v → v = "" ∨ v = storedVersion j) →
    ∃ v, v ≠ "" ∧ ¬ issued s v ∧ issued (b.after (.replace ns name record) s) v ∧
      b.reply (.replace ns name record) s = MemoryStore.asRecord (.ok (MemoryStore.withVersion v record.toJson)) ∧
      b.contents (b.after (.replace ns name record) s) ns =
        (b.contents s ns).set name (MemoryStore.withVersion v record.toJson)
  delete_missing : ∀ {s ns name}, b.find? s ns name = none → b.Refuses s ns (.delete ns name) 404
  delete_present : ∀ {s ns name j}, b.find? s ns name = some j →
    b.reply (.delete ns name) s = .ok () ∧
      b.contents (b.after (.delete ns name) s) ns = (b.contents s ns).erase name

variable {b} {issued : σ → String → Prop}

/-- Where one namespace has new contents that differ under one name, the store differs under one key. -/
theorem find?_of_contents {s s' : σ} {ns name : String} {m : Directory Json} {value : Option Json}
    (h : ∀ ns', b.contents s' ns' = if ns' = ns then m else b.contents s ns')
    (hm : ∀ name', m.find? name' = if name' = name then value else b.find? s ns name') (ns' name' : String) :
    b.find? s' ns' name' = if ns' = ns ∧ name' = name then value else b.find? s ns' name' := by
  rw [BackingStore.find?, h]
  by_cases hns : ns' = ns
  · subst hns
    rw [if_pos rfl, hm]
    simp only [true_and]
  · rw [if_neg hns, if_neg fun hat => hns hat.1]
    rfl

/-- A get changes nothing in its namespace. -/
theorem Faithful.contents_after_get (h : b.Faithful issued) (s : σ) (ns name : String) :
    b.contents (b.after (.get ns name) s) ns = b.contents s ns := by
  cases hfind : b.find? s ns name with
  | none => exact (h.get_missing hfind).2
  | some j => exact (h.get_present hfind).2

theorem Faithful.find?_after_get (h : b.Faithful issued) (s : σ) (ns name name' : String) :
    b.find? (b.after (.get ns name) s) ns name' = b.find? s ns name' := by
  rw [find?, h.contents_after_get, find?]

end BackingStore

end AppGateway
