import AppGateway.Meta.ObjectMeta
import AppGateway.Proofs.Json.Members

/-!
# Metadata is read back as it was written

* (maps) `StringMap.ofJson?_toJson`: a map from text to text is read back;
* (metadata) `ObjectMeta.ofJson?_toJson`: metadata whose times, numbers and field records are read back one by one
  (`ObjectMeta.Rereads`) is read back as a whole.

The written metadata has its members in key order, so setting the resource version in it is the same as writing
metadata with that version (`ObjectMeta.set_resourceVersion`).
-/

namespace AppGateway

/-- A list written item by item is read back item by item. -/
theorem mapM_map_eq_some {α β : Type} {f : β → Option α} {w : α → β} {xs : List α} (h : ∀ x ∈ xs, f (w x) = some x) :
    (xs.map w).mapM f = some xs := by
  induction xs with
  | nil => rfl
  | cons x xs ih =>
    have hx : f (w x) = some x := h x (by simp)
    have hxs := ih fun y hy => h y (by simp [hy])
    rw [List.map_cons, List.mapM_cons, hx, hxs]
    rfl

theorem Json.listOf_array {α : Type} {f : Json → Option α} {w : α → Json} {xs : List α}
    (h : ∀ x ∈ xs, f (w x) = some x) : Json.listOf f (.array (xs.map w)) = some xs :=
  mapM_map_eq_some h

theorem Json.nullable_int {α : Type} (f : Json → Option α) (n : Int) :
    Json.nullable f (.int n) = (f (.int n)).map some := rfl

theorem Json.nullable_string {α : Type} (f : Json → Option α) (s : String) :
    Json.nullable f (.string s) = (f (.string s)).map some := rfl

theorem Timestamp.ofJson?_string (text : String) : Timestamp.ofJson? (.string text) = Timestamp.parse text := rfl

/-- A time that is read back from its whole seconds is read back as a member. -/
theorem Timestamp.nullable_seconds {ms : Members} {key : String} {value : Option Timestamp}
    (hk : ms.filter (·.1 == key) = Members.optional key (value.map fun t => .string t.toSecondsText))
    (hv : ∀ t, value = some t → Timestamp.parse t.toSecondsText = some t) :
    ms.nullable key Timestamp.ofJson? = some value := by
  refine Members.nullable_of_reread hk fun t ht => ?_
  rw [Json.nullable_string, Timestamp.ofJson?_string, hv t ht]
  rfl

namespace StringMap

/-- An entry with a key above all others goes to the end. -/
private theorem insertEntry_append {key value : String} {entries : List (String × String)}
    (h : ∀ e ∈ entries, e.1 < key) : insertEntry key value entries = entries ++ [(key, value)] := by
  induction entries with
  | nil => rfl
  | cons e rest ih =>
    have he : e.1 < key := h e (by simp)
    have hlt : ¬ key < e.1 := fun hk => String.lt_irrefl _ (String.lt_trans hk he)
    have hne : key ≠ e.1 := fun hk => String.lt_irrefl _ (hk ▸ he)
    simp [insertEntry, hlt, hne, ih fun x hx => h x (by simp [hx])]

private theorem foldl_insert (acc : StringMap) (rest : List (String × String))
    (h : (acc.entries ++ rest).Pairwise fun a b => a.1 < b.1) :
    (rest.foldl (fun acc e => acc.insert e.1 e.2) acc).entries = acc.entries ++ rest := by
  induction rest generalizing acc with
  | nil => simp
  | cons e rest ih =>
    have hlast : ∀ x ∈ acc.entries, x.1 < e.1 := by
      intro x hx
      exact (List.pairwise_append.mp h).2.2 x hx e (by simp)
    have hacc : (acc.insert e.1 e.2).entries = acc.entries ++ [e] := insertEntry_append hlast
    rw [List.foldl_cons, ih _ (by rw [hacc]; simpa using h), hacc]
    simp

private theorem ext_entries {m m' : StringMap} (h : m.entries = m'.entries) : m = m' := by
  cases m
  cases m'
  simpa using h

/-- A map is the map of its entries. -/
private theorem ofList_entries (m : StringMap) : ofList m.entries = m :=
  ext_entries (foldl_insert empty m.entries m.sorted)

theorem ofJson?_toJson (m : StringMap) : ofJson? m.toJson = some m := by
  have h : (m.entries.map fun e => (e.1, Json.string e.2)).mapM
      (fun (x : String × Json) => x.2.string?.map fun text => (x.1, text)) = some m.entries :=
    mapM_map_eq_some fun e _ => rfl
  rw [toJson, ofJson?, h, Option.map_some, ofList_entries]

end StringMap

theorem OwnerReference.ofJson?_toJson (r : OwnerReference) : ofJson? r.toJson = some r := by
  obtain ⟨apiVersion, block, controller, kind, name, uid⟩ := r
  cases block <;> cases controller <;> rfl

namespace ObjectMeta

/-- The members of written metadata. -/
def members (m : ObjectMeta) : Members := m.toJson.members?.getD []

theorem toJson_eq (m : ObjectMeta) : m.toJson = .object m.members := rfl

/-- The keys of metadata, in order. -/
def keys : List String :=
  ["annotations", "creationTimestamp", "deletionGracePeriodSeconds", "deletionTimestamp", "finalizers",
    "generateName", "generation", "labels", "managedFields", "name", "namespace", "ownerReferences",
    "resourceVersion", "selfLink", "uid"]

private theorem members_sublist (m : ObjectMeta) : (m.members.map (·.1)).Sublist keys := by
  have h := Members.optional_sublist
  simp only [members, toJson, Json.members?, Option.getD_some, List.map_append]
  exact (((((((((((((((h _ _).append (h _ _)).append (h _ _)).append (h _ _)).append (h _ _)).append (h _ _)).append
    (h _ _)).append (h _ _)).append (h _ _)).append (h _ _)).append (h _ _)).append (h _ _)).append (h _ _)).append
    (h _ _)).append (h _ _))

theorem members_ordered (m : ObjectMeta) : Members.Ordered m.members :=
  Members.ordered_of_sublist m.members_sublist (by decide)

/-- The members of written metadata with one key. -/
theorem filter_members (m : ObjectMeta) (key : String) :
    m.members.filter (·.1 == key) =
      (Members.optional "annotations" (m.annotations.map StringMap.toJson)).filter (·.1 == key)
      ++ (Members.optional "creationTimestamp"
          (m.creationTimestamp.map fun t => .string t.toSecondsText)).filter (·.1 == key)
      ++ (Members.optional "deletionGracePeriodSeconds" (m.deletionGracePeriodSeconds.map .int)).filter (·.1 == key)
      ++ (Members.optional "deletionTimestamp"
          (m.deletionTimestamp.map fun t => .string t.toSecondsText)).filter (·.1 == key)
      ++ (Members.optional "finalizers" (m.finalizers.map .strings)).filter (·.1 == key)
      ++ (Members.optional "generateName" (m.generateName.map .string)).filter (·.1 == key)
      ++ (Members.optional "generation" (m.generation.map .int)).filter (·.1 == key)
      ++ (Members.optional "labels" (m.labels.map StringMap.toJson)).filter (·.1 == key)
      ++ (Members.optional "managedFields"
          (m.managedFields.map fun fs => .array (fs.map ManagedFields.toJson))).filter (·.1 == key)
      ++ (Members.optional "name" (m.name.map .string)).filter (·.1 == key)
      ++ (Members.optional "namespace" (m.ns.map .string)).filter (·.1 == key)
      ++ (Members.optional "ownerReferences"
          (m.ownerReferences.map fun rs => .array (rs.map OwnerReference.toJson))).filter (·.1 == key)
      ++ (Members.optional "resourceVersion" (m.resourceVersion.map .string)).filter (·.1 == key)
      ++ (Members.optional "selfLink" (m.selfLink.map .string)).filter (·.1 == key)
      ++ (Members.optional "uid" (m.uid.map .string)).filter (·.1 == key) := by
  simp only [members, toJson, Json.members?, Option.getD_some, List.filter_append]

private theorem nullable_map {ms : Members} {key : String} {value : Option StringMap}
    (h : ms.filter (·.1 == key) = Members.optional key (value.map StringMap.toJson)) :
    ms.nullable key StringMap.ofJson? = some value :=
  Members.nullable_of_reread h fun m _ => congrArg (Option.map some) m.ofJson?_toJson

private theorem nullable_list {α : Type} {ms : Members} {key : String} {value : Option (List α)} {write : α → Json}
    {f : Json → Option α} (hf : ∀ xs, value = some xs → ∀ a ∈ xs, f (write a) = some a)
    (h : ms.filter (·.1 == key) = Members.optional key (value.map fun xs => .array (xs.map write))) :
    ms.nullable key (Json.listOf f) = some value :=
  Members.nullable_of_reread h fun xs hxs => congrArg (Option.map some) (Json.listOf_array (hf xs hxs))

/-- Reading written metadata changes nothing but times, numbers and field records, which are read on their own. -/
theorem ofJson?_toJson_eq (m : ObjectMeta) : ofJson? m.toJson = do
    let creationTimestamp ← m.members.nullable "creationTimestamp" Timestamp.ofJson?
    let deletionGracePeriodSeconds ← m.members.nullable "deletionGracePeriodSeconds" Json.int64?
    let deletionTimestamp ← m.members.nullable "deletionTimestamp" Timestamp.ofJson?
    let generation ← m.members.nullable "generation" Json.int64?
    let managedFields ← m.members.nullable "managedFields" (Json.listOf ManagedFields.ofJson?)
    return { m with
      creationTimestamp, deletionGracePeriodSeconds, deletionTimestamp, generation, managedFields } := by
  have annotations : m.members.nullable "annotations" StringMap.ofJson? = some m.annotations :=
    nullable_map (by simp [filter_members, Members.filter_optional])
  have finalizers : m.members.nullable "finalizers" (Json.listOf Json.string?) = some m.finalizers :=
    nullable_list (fun _ _ _ _ => rfl) (by simp [filter_members, Members.filter_optional]; rfl)
  have generateName : m.members.nullable "generateName" Json.string? = some m.generateName :=
    Members.nullable_text (by simp [filter_members, Members.filter_optional])
  have labels : m.members.nullable "labels" StringMap.ofJson? = some m.labels :=
    nullable_map (by simp [filter_members, Members.filter_optional])
  have name : m.members.nullable "name" Json.string? = some m.name :=
    Members.nullable_text (by simp [filter_members, Members.filter_optional])
  have ns : m.members.nullable "namespace" Json.string? = some m.ns :=
    Members.nullable_text (by simp [filter_members, Members.filter_optional])
  have owners : m.members.nullable "ownerReferences" (Json.listOf OwnerReference.ofJson?) = some m.ownerReferences :=
    nullable_list (fun _ _ r _ => r.ofJson?_toJson) (by simp [filter_members, Members.filter_optional])
  have version : m.members.nullable "resourceVersion" Json.string? = some m.resourceVersion :=
    Members.nullable_text (by simp [filter_members, Members.filter_optional])
  have selfLink : m.members.nullable "selfLink" Json.string? = some m.selfLink :=
    Members.nullable_text (by simp [filter_members, Members.filter_optional])
  have uid : m.members.nullable "uid" Json.string? = some m.uid :=
    Members.nullable_text (by simp [filter_members, Members.filter_optional])
  rw [toJson_eq, ofJson?]
  dsimp only [Json.members?, Option.bind_eq_bind, Option.bind_some]
  rw [annotations, finalizers, generateName, labels, name, ns, owners, version, selfLink, uid]
  dsimp only [Option.bind_some]

/-- The times, numbers and field records of metadata are read back as they are written. -/
structure Rereads (m : ObjectMeta) : Prop where
  creation : ∀ t, m.creationTimestamp = some t → Timestamp.parse t.toSecondsText = some t
  grace : ∀ n, m.deletionGracePeriodSeconds = some n → (Json.int n).int64? = some n
  deletion : ∀ t, m.deletionTimestamp = some t → Timestamp.parse t.toSecondsText = some t
  generation : ∀ n, m.generation = some n → (Json.int n).int64? = some n
  managed : ∀ fs, m.managedFields = some fs → ∀ f ∈ fs, ManagedFields.ofJson? f.toJson = some f

/-- Metadata is read back as it was written. -/
theorem ofJson?_toJson {m : ObjectMeta} (h : m.Rereads) : ofJson? m.toJson = some m := by
  have number {key : String} {value : Option Int}
      (hk : m.members.filter (·.1 == key) = Members.optional key (value.map .int))
      (hv : ∀ n, value = some n → (Json.int n).int64? = some n) :
      m.members.nullable key Json.int64? = some value := by
    refine Members.nullable_of_reread hk fun n hn => ?_
    rw [Json.nullable_int, hv n hn]
    rfl
  have creation : m.members.nullable "creationTimestamp" Timestamp.ofJson? = some m.creationTimestamp :=
    Timestamp.nullable_seconds (by simp [filter_members, Members.filter_optional]) h.creation
  have grace : m.members.nullable "deletionGracePeriodSeconds" Json.int64? = some m.deletionGracePeriodSeconds :=
    number (by simp [filter_members, Members.filter_optional]) h.grace
  have deletion : m.members.nullable "deletionTimestamp" Timestamp.ofJson? = some m.deletionTimestamp :=
    Timestamp.nullable_seconds (by simp [filter_members, Members.filter_optional]) h.deletion
  have generation : m.members.nullable "generation" Json.int64? = some m.generation :=
    number (by simp [filter_members, Members.filter_optional]) h.generation
  have managed : m.members.nullable "managedFields" (Json.listOf ManagedFields.ofJson?) = some m.managedFields :=
    nullable_list h.managed (by simp [filter_members, Members.filter_optional])
  rw [ofJson?_toJson_eq, creation, grace, deletion, generation, managed]
  rfl

/-- Whatever is read of written metadata has its name, its namespace and its resource version. -/
theorem text_of_ofJson?_toJson {m m' : ObjectMeta} (h : ofJson? m.toJson = some m') :
    m'.name = m.name ∧ m'.ns = m.ns ∧ m'.resourceVersion = m.resourceVersion := by
  rw [ofJson?_toJson_eq] at h
  dsimp only [Option.bind_eq_bind] at h
  iterate 5 obtain ⟨_, _, h⟩ := Option.bind_eq_some_iff.mp h
  cases h
  exact ⟨rfl, rfl, rfl⟩

/-- Whatever is read of written metadata has its labels, its annotations, its finalizers and its owners. -/
theorem kept_of_ofJson?_toJson {m m' : ObjectMeta} (h : ofJson? m.toJson = some m') :
    m'.labels = m.labels ∧ m'.annotations = m.annotations ∧ m'.finalizers = m.finalizers ∧
      m'.ownerReferences = m.ownerReferences := by
  rw [ofJson?_toJson_eq] at h
  dsimp only [Option.bind_eq_bind] at h
  iterate 5 obtain ⟨_, _, h⟩ := Option.bind_eq_some_iff.mp h
  cases h
  exact ⟨rfl, rfl, rfl, rfl⟩

/-- The resource version of metadata is read from its member of that name. -/
theorem resourceVersion_of_ofJson? {ms : Members} {m : ObjectMeta} (h : ofJson? (.object ms) = some m) :
    ms.nullable "resourceVersion" Json.string? = some m.resourceVersion := by
  rw [ofJson?] at h
  dsimp only [Json.members?, Option.bind_eq_bind, Option.bind_some] at h
  -- Twelve members are read before the resource version, and two after it.
  iterate 12 obtain ⟨_, _, h⟩ := Option.bind_eq_some_iff.mp h
  obtain ⟨_, hv, h⟩ := Option.bind_eq_some_iff.mp h
  iterate 2 obtain ⟨_, _, h⟩ := Option.bind_eq_some_iff.mp h
  cases h
  exact hv

/-- Setting the resource version of written metadata writes metadata with that version. -/
theorem set_resourceVersion (m : ObjectMeta) (v : String) :
    m.members.set "resourceVersion" (.string v) = { m with resourceVersion := some v : ObjectMeta }.members := by
  simp only [members, toJson, Json.members?, Option.getD_some, List.append_assoc]
  simp (disch := decide) only [Members.set_optional_append]
  cases m.resourceVersion <;> cases m.selfLink <;> cases m.uid <;> rfl

/-- A member of written metadata is found by its key. -/
theorem get?_members {m : ObjectMeta} {key : String} {value : Option Json}
    (h : m.members.filter (·.1 == key) = Members.optional key value) : m.members.get? key = value :=
  Members.optional_inj ((m.members_ordered.filter_key key).symm.trans h)

theorem get?_name (m : ObjectMeta) : m.members.get? "name" = m.name.map .string :=
  get?_members (by simp [filter_members, Members.filter_optional])

theorem get?_ns (m : ObjectMeta) : m.members.get? "namespace" = m.ns.map .string :=
  get?_members (by simp [filter_members, Members.filter_optional])

theorem get?_resourceVersion (m : ObjectMeta) : m.members.get? "resourceVersion" = m.resourceVersion.map .string :=
  get?_members (by simp [filter_members, Members.filter_optional])

end ObjectMeta

end AppGateway
