import AppGateway.Proofs.Meta.Decoded

/-!
# Metadata in whole seconds

Metadata that a client sends may have times with fractions of a second.  They are kept when it is read and dropped when
it is written, so that it is read back as the same metadata in whole seconds (`ObjectMeta.reread_inSeconds`).  To write
it is to write it in whole seconds (`ObjectMeta.toJson_inSeconds`), so that nothing more is lost later.
-/

namespace AppGateway

namespace Timestamp

/-- The last whole second up to a moment; a leap second remains one. -/
def inSeconds (t : Timestamp) : Timestamp :=
  { t with nanoseconds := t.nanoseconds / 1000000000 * 1000000000 }

variable {t : Timestamp}

private theorem nanoseconds_inSeconds (t : Timestamp) :
    t.inSeconds.nanoseconds = t.nanoseconds / 1000000000 * 1000000000 := rfl

@[simp] theorem toSecondsText_inSeconds (t : Timestamp) : t.inSeconds.toSecondsText = t.toSecondsText := by
  have hcarry : t.inSeconds.nanoseconds / 1000000000 = t.nanoseconds / 1000000000 := by
    rw [nanoseconds_inSeconds]
    omega
  unfold toSecondsText clockChars
  rw [hcarry]
  rfl

private theorem Valid.inSeconds (h : t.Valid) : t.inSeconds.Valid where
  date := h.date
  nanoseconds := by
    have hn := h.nanoseconds
    have hseconds : t.inSeconds.seconds = t.seconds := rfl
    rw [nanoseconds_inSeconds, hseconds]
    omega

/-- A moment that was read, in whole seconds, is read back. -/
theorem reread_inSeconds {text : String} (h : parse text = some t) :
    parse t.inSeconds.toSecondsText = some t.inSeconds := by
  have hwhole : t.inSeconds.nanoseconds % 1000000000 = 0 := by
    rw [nanoseconds_inSeconds]
    omega
  exact parse_toSecondsText (valid_of_parse h).inSeconds hwhole

private theorem reread_member_inSeconds {ms : Members} {key : String} {value : Option Timestamp}
    (h : ms.nullable key Timestamp.ofJson? = some value) (ht : value.map inSeconds = some t) :
    parse t.toSecondsText = some t := by
  obtain ⟨t₀, rfl, rfl⟩ := Option.map_eq_some_iff.mp ht
  obtain ⟨j, hj⟩ := Members.of_nullable h
  obtain ⟨text, -, hparse⟩ := Option.bind_eq_some_iff.mp hj
  exact reread_inSeconds hparse

/-- To write a time in seconds, it does not matter whether it is in whole seconds. -/
theorem written_inSeconds (value : Option Timestamp) :
    (value.map inSeconds).map (fun t => Json.string t.toSecondsText) =
      value.map fun t => .string t.toSecondsText := by
  cases value with
  | none => rfl
  | some t => simp

end Timestamp

namespace ManagedFields

/-- A field record with its time in whole seconds. -/
def inSeconds (f : ManagedFields) : ManagedFields := { f with time := f.time.map Timestamp.inSeconds }

@[simp] theorem toJson_inSeconds (f : ManagedFields) : f.inSeconds.toJson = f.toJson := by
  unfold toJson inSeconds
  rw [Timestamp.written_inSeconds]

theorem reread_inSeconds {j : Json} {f : ManagedFields} (h : ofJson? j = some f) :
    ofJson? f.inSeconds.toJson = some f.inSeconds := by
  simp only [ofJson?, Option.bind_eq_bind, Option.bind_eq_some_iff] at h
  obtain ⟨_, -, _, -, _, -, fields, hfields, _, -, _, -, _, -, time, htime, h⟩ := h
  cases h
  refine ofJson?_toJson (Members.nullable_any_ne_null hfields) fun t ht => ?_
  exact Timestamp.reread_member_inSeconds htime ht

end ManagedFields

namespace ObjectMeta

/-- Metadata with all its times in whole seconds. -/
def inSeconds (m : ObjectMeta) : ObjectMeta :=
  { m with
    creationTimestamp := m.creationTimestamp.map Timestamp.inSeconds
    deletionTimestamp := m.deletionTimestamp.map Timestamp.inSeconds
    managedFields := m.managedFields.map (·.map ManagedFields.inSeconds) }

@[simp] theorem toJson_inSeconds (m : ObjectMeta) : m.inSeconds.toJson = m.toJson := by
  have hmanaged : (m.managedFields.map (·.map ManagedFields.inSeconds)).map
      (fun fs => Json.array (fs.map ManagedFields.toJson)) =
        m.managedFields.map fun fs => .array (fs.map ManagedFields.toJson) := by
    cases m.managedFields with
    | none => rfl
    | some fs => simp
  unfold toJson inSeconds
  rw [Timestamp.written_inSeconds, Timestamp.written_inSeconds, hmanaged]

/-- Metadata that was read, in whole seconds, is read back. -/
theorem rereads_inSeconds {j : Json} {m : ObjectMeta} (h : ofJson? j = some m) : m.inSeconds.Rereads := by
  -- Of the fifteen members that are read, three are times or have times, and two are numbers.
  obtain ⟨ms, -, h⟩ := Option.bind_eq_some_iff.mp h
  obtain ⟨_, -, h⟩ := Option.bind_eq_some_iff.mp h
  obtain ⟨creation, hcreation, h⟩ := Option.bind_eq_some_iff.mp h
  obtain ⟨grace, hgrace, h⟩ := Option.bind_eq_some_iff.mp h
  obtain ⟨deletion, hdeletion, h⟩ := Option.bind_eq_some_iff.mp h
  obtain ⟨_, -, h⟩ := Option.bind_eq_some_iff.mp h
  obtain ⟨_, -, h⟩ := Option.bind_eq_some_iff.mp h
  obtain ⟨generation, hgeneration, h⟩ := Option.bind_eq_some_iff.mp h
  obtain ⟨_, -, h⟩ := Option.bind_eq_some_iff.mp h
  obtain ⟨managed, hmanaged, h⟩ := Option.bind_eq_some_iff.mp h
  obtain ⟨_, -, h⟩ := Option.bind_eq_some_iff.mp h
  obtain ⟨_, -, h⟩ := Option.bind_eq_some_iff.mp h
  obtain ⟨_, -, h⟩ := Option.bind_eq_some_iff.mp h
  obtain ⟨_, -, h⟩ := Option.bind_eq_some_iff.mp h
  obtain ⟨_, -, h⟩ := Option.bind_eq_some_iff.mp h
  obtain ⟨_, -, h⟩ := Option.bind_eq_some_iff.mp h
  cases h
  constructor
  · intro t ht
    exact Timestamp.reread_member_inSeconds hcreation ht
  · rintro n rfl
    exact Json.reread_member hgrace
  · intro t ht
    exact Timestamp.reread_member_inSeconds hdeletion ht
  · rintro n rfl
    exact Json.reread_member hgeneration
  · intro fs hfs f hf
    obtain ⟨fs₀, rfl, rfl⟩ := Option.map_eq_some_iff.mp hfs
    obtain ⟨f₀, hf₀, rfl⟩ := List.mem_map.mp hf
    obtain ⟨value, hvalue⟩ := Members.of_nullable hmanaged
    obtain ⟨items, -, hitems⟩ := Option.bind_eq_some_iff.mp hvalue
    exact forall_of_mapM (fun _ _ _ hread => ManagedFields.reread_inSeconds hread) hitems f₀ hf₀

theorem reread_inSeconds {j : Json} {m : ObjectMeta} (h : ofJson? j = some m) :
    ofJson? m.toJson = some m.inSeconds := by
  rw [← toJson_inSeconds]
  exact ofJson?_toJson (rereads_inSeconds h)

end ObjectMeta

end AppGateway
