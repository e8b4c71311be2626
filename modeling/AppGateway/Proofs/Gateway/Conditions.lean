import AppGateway.Proofs.Gateway.Tables
import AppGateway.Proofs.Resource.Merged
import AppGateway.Proofs.Sample

/-!
# What is no condition hides nothing

The conditions of a stored release come from other writers.  Items that are no conditions are left out, and nothing
else depends on them: not whether the record is read, and not which of the other conditions are shown.

* (reading) `Condition.ofJson?_eq_some_iff`: the items that are conditions, and what each says;
* (replacing) `Release.ofRecord_withConditions`: with other items in the array, a record is read as the same release
  but for its conditions;
* (main result) `ResourceDefinition.strange_conditions_hide_nothing`.
-/

namespace AppGateway

namespace Members

variable {key k : String} {f : Json → Json}

/-! ### Changing the values of a key -/

/-- The members with every value of a key changed. -/
def change (ms : Members) (key : String) (f : Json → Json) : Members :=
  ms.map fun m => if m.1 = key then (m.1, f m.2) else m

private theorem filter_change (ms : Members) (key k : String) (f : Json → Json) :
    (ms.change key f).filter (·.1 == k) = change (ms.filter (·.1 == k)) key f := by
  have hkeys : ((·.1 == k) ∘ fun m : String × Json => if m.1 = key then (m.1, f m.2) else m) = (·.1 == k) := by
    funext m
    by_cases hm : m.1 = key <;> simp [hm]
  rw [change, List.filter_map, hkeys]
  rfl

private theorem filter_change_of_ne (ms : Members) (f : Json → Json) (h : k ≠ key) :
    (ms.change key f).filter (·.1 == k) = ms.filter (·.1 == k) := by
  rw [filter_change, change]
  refine (List.map_congr_left fun m hm => ?_).trans (List.map_id _)
  have hk : m.1 = k := by simpa using (List.mem_filter.mp hm).2
  rw [if_neg (hk ▸ h)]
  rfl

private theorem length_filter_change (ms : Members) (key k : String) (f : Json → Json) :
    ((ms.change key f).filter (·.1 == k)).length = (ms.filter (·.1 == k)).length := by
  rw [filter_change, change, List.length_map]

private theorem get?_change_self (ms : Members) (key : String) (f : Json → Json) :
    (ms.change key f).get? key = (ms.get? key).map f := by
  induction ms with
  | nil => rfl
  | cons m ms ih =>
    rw [show change (m :: ms) key f = (if m.1 = key then (m.1, f m.2) else m) :: change ms key f from rfl, get?_cons,
      get?_cons]
    by_cases hm : m.1 = key
    · rw [if_pos hm, if_pos hm.symm, if_pos hm.symm]
      rfl
    · rw [if_neg hm, if_neg (Ne.symm hm), if_neg (Ne.symm hm), ih]

private theorem read_change_of_ne {α : Type} (ms : Members) (f : Json → Json) (h : k ≠ key) (g : Json → Option α)
    (default : α) : (ms.change key f).read k g default = ms.read k g default := by
  rw [read, filter_change_of_ne ms f h, read]

/-- What is read of the changed value of a key that occurs at most once. -/
theorem read_change_self {α : Type} {ms : Members} (h : (ms.filter (·.1 == key)).length ≤ 1) (f : Json → Json)
    (g : Json → Option α) (default : α) :
    (ms.change key f).read key g default = ((ms.get? key).map f).elim (some default) g := by
  have honce : ((ms.change key f).filter (·.1 == key)).length ≤ 1 := by rwa [length_filter_change]
  rw [read_of_once _ _ honce, get?_change_self]

/-- Whether a key is there more than once does not depend on the values. -/
theorem strictMembers?_change (ms : Members) (names : List String) (key : String) (f : Json → Json) :
    Json.strictMembers? names (.object (ms.change key f)) =
      (Json.strictMembers? names (.object ms)).map (·.change key f) := by
  simp only [Json.strictMembers?, Json.fields?, length_filter_change]
  split <;> rfl

end Members

/-! ### Reading conditions -/

namespace Members

private theorem length_filter_zip_le {names : List String} (h : names.Nodup) (items : List Json) (key : String) :
    ((names.zip items).filter (·.1 == key)).length ≤ 1 := by
  induction names generalizing items with
  | nil => simp
  | cons n names ih =>
    obtain ⟨hn, hnames⟩ := List.nodup_cons.mp h
    cases items with
    | nil => simp
    | cons item items =>
      rw [List.zip_cons_cons]
      by_cases hkey : n = key
      · have hrest : (names.zip items).filter (·.1 == key) = [] := by
          rw [List.filter_eq_nil_iff]
          intro m hm he
          have hmem : m.1 ∈ names := (List.of_mem_zip hm).1
          exact hn (by rwa [hkey, ← beq_iff_eq.mp he])
        rw [List.filter_cons_of_pos (by simpa using hkey), hrest]
        simp
      · rw [List.filter_cons_of_neg (by simpa using hkey)]
        exact ih hnames items

/-- The text of a member, which is empty when the member is missing. -/
def Says (ms : Members) (key text : String) : Prop :=
  ms.get? key = some (.string text) ∨ (ms.get? key = none ∧ text = "")

private theorem read_text_iff {ms : Members} {key text : String} (h : (ms.filter (·.1 == key)).length ≤ 1) :
    ms.read key Json.string? "" = some text ↔ ms.Says key text := by
  rw [read_of_once _ _ h, Says]
  cases hj : ms.get? key with
  | none => simp [eq_comm]
  | some j => cases j <;> simp [Json.string?]

end Members

namespace Condition

/-- A condition says what some members say: its type, reason and message are texts, its status is `True` or `False`
only where these are written, and its time is a time of the form in which times are written, if there is one. -/
structure ReadOf (c : Condition) (ms : Members) : Prop where
  type : ms.Says "type" c.type
  status : ∃ text, ms.Says "status" text ∧ c.status =
    if text = "True" then .isTrue else if text = "False" then .isFalse else .unknown
  reason : ms.Says "reason" c.reason
  message : ms.Says "message" c.message
  time : (ms.get? "lastTransitionTime" = none ∨ ms.get? "lastTransitionTime" = some .null) ∧
      c.lastTransitionTime = none ∨
    ∃ text t, ms.get? "lastTransitionTime" = some (.string text) ∧ Timestamp.parse text = some t ∧
      c.lastTransitionTime = some t

private theorem once_of_fields? {j : Json} {ms : Members} (h : Json.fields? fields j = some ms) :
    ∀ key ∈ fields, (ms.filter (·.1 == key)).length ≤ 1 := by
  cases j with
  | object ms' =>
    have hstrict : Json.strictMembers? fields (.object ms') = some ms := h
    obtain ⟨rfl, honce⟩ := Members.of_strictMembers? hstrict
    exact honce
  | array items =>
    simp only [Json.fields?, Option.ite_none_right_eq_some, Option.some.injEq] at h
    intro key _
    rw [← h.2]
    exact Members.length_filter_zip_le (by decide) items key
  | _ => cases h

private theorem status_iff {ms : Members} {status : ConditionStatus} (h : (ms.filter (·.1 == "status")).length ≤ 1) :
    ms.read "status" (fun j => j.string?.map .ofText) .unknown = some status ↔
      ∃ text, ms.Says "status" text ∧ status =
        if text = "True" then .isTrue else if text = "False" then .isFalse else .unknown := by
  rw [Members.read_of_once _ _ h]
  constructor
  · intro hread
    cases hj : ms.get? "status" with
    | none =>
      rw [hj] at hread
      cases hread
      exact ⟨"", .inr ⟨hj, rfl⟩, rfl⟩
    | some j =>
      rw [hj] at hread
      obtain ⟨text, htext, rfl⟩ := Option.map_eq_some_iff.mp hread
      cases j with
      | string _ =>
        cases htext
        exact ⟨text, .inl hj, rfl⟩
      | _ => cases htext
  · rintro ⟨text, hj | ⟨hj, rfl⟩, rfl⟩
    · rw [hj]
      rfl
    · rw [hj]
      rfl

private theorem time_iff {ms : Members} {key : String} {time : Option Timestamp}
    (h : (ms.filter (·.1 == key)).length ≤ 1) : ms.nullable key Timestamp.ofJson? = some time ↔
      (ms.get? key = none ∨ ms.get? key = some .null) ∧ time = none ∨
      ∃ text t, ms.get? key = some (.string text) ∧ Timestamp.parse text = some t ∧ time = some t := by
  rw [Members.nullable_of_once _ h]
  cases hj : ms.get? key with
  | none => simp [eq_comm]
  | some j =>
    cases j with
    | string text =>
      cases hparse : Timestamp.parse text <;> simp [Json.nullable, Timestamp.ofJson?, Json.string?, hparse, eq_comm]
    | _ => simp [Json.nullable, Timestamp.ofJson?, Json.string?, eq_comm]

/-- A condition is decoded from a value: an object that has no field twice, or the fields in order as an array. -/
def DecodedFrom (c : Condition) (j : Json) : Prop := ∃ ms, Json.fields? fields j = some ms ∧ c.ReadOf ms

/-- The values that are conditions, and what each of them says. -/
theorem ofJson?_eq_some_iff {j : Json} {c : Condition} : ofJson? j = some c ↔ c.DecodedFrom j := by
  constructor
  · intro h
    simp only [ofJson?, Option.bind_eq_bind, Option.bind_eq_some_iff] at h
    obtain ⟨ms, hms, type, htype, status, hstatus, reason, hreason, message, hmessage, time, htime, h⟩ := h
    cases h
    have honce := once_of_fields? hms
    exact ⟨ms, hms, {
      type := (Members.read_text_iff (honce _ (by decide))).mp htype
      status := (status_iff (honce _ (by decide))).mp hstatus
      reason := (Members.read_text_iff (honce _ (by decide))).mp hreason
      message := (Members.read_text_iff (honce _ (by decide))).mp hmessage
      time := (time_iff (honce _ (by decide))).mp htime }⟩
  · rintro ⟨ms, hms, h⟩
    have honce := once_of_fields? hms
    simp only [ofJson?, hms, Option.bind_eq_bind, Option.bind_some,
      (Members.read_text_iff (honce "type" (by decide))).mpr h.type,
      (status_iff (honce "status" (by decide))).mpr h.status,
      (Members.read_text_iff (honce "reason" (by decide))).mpr h.reason,
      (Members.read_text_iff (honce "message" (by decide))).mpr h.message,
      (time_iff (honce "lastTransitionTime" (by decide))).mpr h.time]
    rfl

private theorem not_decodedFrom {j : Json} (h : ofJson? j = none) (c : Condition) : ¬ c.DecodedFrom j := by
  simp [← ofJson?_eq_some_iff, h]

private theorem DecodedFrom.unique {j : Json} {c c' : Condition} (h : c.DecodedFrom j) (h' : c'.DecodedFrom j) : c' =
    c :=
  Option.some.inj ((ofJson?_eq_some_iff.mpr h').symm.trans (ofJson?_eq_some_iff.mpr h))

end Condition

/-! ### Replacing the conditions of a record -/

namespace ReleaseStatus

variable {ms : Members} {items : List Json}

/-- A status with other items in its array of conditions. -/
def replaceConditions (items : List Json) : Json → Json
  | .object ms => .object (Members.change ms "conditions" fun _ => .array items)
  | j => j

private theorem conditions_of_ofJson? (h : ms.get? "conditions" = some (.array items)) {s : ReleaseStatus}
    (hs : ofJson? (.object ms) = some s) : s.conditions = items.filterMap Condition.ofJson? := by
  simp only [ofJson?, Option.bind_eq_bind, Option.bind_eq_some_iff] at hs
  obtain ⟨ms', hfields, _, -, conditions, hread, hs⟩ := hs
  have hstrict : Json.strictMembers? ["lastAttemptedRevision", "conditions"] (.object ms) = some ms' := hfields
  obtain ⟨rfl, honce⟩ := Members.of_strictMembers? hstrict
  cases hs
  rw [Members.read_of_once _ _ (honce "conditions" (by simp)), h] at hread
  exact (Option.some.inj hread).symm

private theorem ofJson?_replaceConditions (h : ms.get? "conditions" = some (.array items)) (items' : List Json) :
    ofJson? (replaceConditions items' (.object ms)) =
      (ofJson? (.object ms)).map fun s => { s with conditions := items'.filterMap Condition.ofJson? } := by
  have hobject (ms : Members) : Json.fields? ["lastAttemptedRevision", "conditions"] (.object ms) =
      Json.strictMembers? ["lastAttemptedRevision", "conditions"] (.object ms) := rfl
  rw [replaceConditions, ofJson?, ofJson?, hobject, hobject, Members.strictMembers?_change]
  cases hms : Json.strictMembers? ["lastAttemptedRevision", "conditions"] (.object ms) with
  | none => rfl
  | some ms' =>
    obtain ⟨rfl, honce⟩ := Members.of_strictMembers? hms
    have hconditions : ms'.read "conditions" conditions? [] = some (items.filterMap Condition.ofJson?) := by
      rw [Members.read_of_once _ _ (honce "conditions" (by simp)), h]
      rfl
    have hconditions' : (ms'.change "conditions" fun _ => .array items').read "conditions" conditions? [] =
        some (items'.filterMap Condition.ofJson?) := by
      rw [Members.read_change_self (honce "conditions" (by simp)), h]
      rfl
    simp only [Option.map_some, Option.bind_eq_bind, Option.bind_some, hconditions, hconditions',
      Members.read_change_of_ne ms' _ (show "lastAttemptedRevision" ≠ "conditions" by decide)]
    cases ms'.read "lastAttemptedRevision" Json.string? "" <;> rfl

end ReleaseStatus

/-- The record with other items in the array of conditions of its status. -/
def Record.withConditions (record : Record) (items : List Json) : Record :=
  { record with data := record.data.change "status" (ReleaseStatus.replaceConditions items) }

/-- The release with other conditions, when it has a status. -/
def Release.withConditions (r : Release) (conditions : List Condition) : Release :=
  { r with status := r.status.map fun s => { s with conditions } }

namespace Record

private theorem members_withConditions (record : Record) (items : List Json) :
    (record.withConditions items).members =
      record.members.change "status" (ReleaseStatus.replaceConditions items) := by
  cases ht : record.type <;> simp [members, toJson, Json.members?, withConditions, Members.change, ht]

private theorem get?_members_status (record : Record) : record.members.get? "status" = record.data.get? "status" := by
  cases ht : record.type <;> simp [members, toJson, Json.members?, ht, Members.get?_cons]

end Record

namespace Release

variable {record : Record} {ms st : Members} {items : List Json}

private theorem ofJson?_change (hstatus : ms.get? "status" = some (.object st))
    (hconditions : st.get? "conditions" = some (.array items)) (items' : List Json) :
    ofJson? (.object (ms.change "status" (ReleaseStatus.replaceConditions items'))) =
      (ofJson? (.object ms)).map (·.withConditions (items'.filterMap Condition.ofJson?)) := by
  rw [ofJson?, ofJson?, Members.strictMembers?_change]
  cases hms : Json.strictMembers? ["apiVersion", "kind", "metadata", "spec", "status"] (.object ms) with
  | none => rfl
  | some ms' =>
    obtain ⟨rfl, honce⟩ := Members.of_strictMembers? hms
    have hread : ms'.nullable "status" ReleaseStatus.ofJson? = (ReleaseStatus.ofJson? (.object st)).map some := by
      rw [Members.nullable_of_once _ (honce "status" (by simp)), hstatus]
      rfl
    have hread' : (ms'.change "status" (ReleaseStatus.replaceConditions items')).nullable "status"
        ReleaseStatus.ofJson? = ((ReleaseStatus.ofJson? (.object st)).map fun s =>
          { s with conditions := items'.filterMap Condition.ofJson? }).map some := by
      rw [Members.nullable, Members.read_change_self (honce "status" (by simp)), hstatus,
        ← ReleaseStatus.ofJson?_replaceConditions hconditions items']
      rfl
    -- The other fields are read of the same members, in both cases before the status.
    simp only [Option.map_some, Option.bind_eq_bind, Option.bind_some, hread, hread',
      Members.read_change_of_ne ms' _ (show "apiVersion" ≠ "status" by decide),
      Members.read_change_of_ne ms' _ (show "kind" ≠ "status" by decide),
      Members.read_change_of_ne ms' _ (show "metadata" ≠ "status" by decide),
      Members.read_change_of_ne ms' _ (show "spec" ≠ "status" by decide)]
    cases ms'.read "apiVersion" Json.string? "" <;> cases ms'.read "kind" Json.string? "" <;>
      cases ms'.read "metadata" ObjectMeta.ofJson? {} <;> cases ms'.read "spec" ReleaseSpec.ofJson? {} <;>
      cases ReleaseStatus.ofJson? (.object st) <;> rfl

/-- With other items in its array of conditions, a record is read as the same release but for its conditions, and
with the same fault if it cannot be read. -/
theorem ofRecord_withConditions (hstatus : record.data.get? "status" = some (.object st))
    (hconditions : st.get? "conditions" = some (.array items)) (items' : List Json) :
    ofRecord (record.withConditions items') =
      (ofRecord record).map (·.withConditions (items'.filterMap Condition.ofJson?)) := by
  have hname : (record.withConditions items').name = record.name := rfl
  have hfound : record.members.get? "status" = some (.object st) := record.get?_members_status.trans hstatus
  rw [ofRecord, ofRecord, Record.toJson_eq, Record.toJson_eq, Record.members_withConditions, hname,
    ofJson?_change hfound hconditions]
  cases ofJson? (.object record.members) <;> rfl

private theorem conditions_of_ofRecord (hstatus : record.data.get? "status" = some (.object st))
    (hconditions : st.get? "conditions" = some (.array items)) {r : Release} (h : ofRecord record = .ok r) :
    (r.status.map (·.conditions)).getD [] = items.filterMap Condition.ofJson? := by
  have hread := (ofRecord_eq_ok_iff.mp h).status
  have honce := (ofRecord_eq_ok_iff.mp h).once "status" (by decide)
  rw [Members.nullable_of_once _ honce, record.get?_members_status, hstatus] at hread
  obtain ⟨s, hs, hr⟩ := Option.map_eq_some_iff.mp hread
  rw [← hr]
  exact ReleaseStatus.conditions_of_ofJson? hconditions hs

end Release

/-! ### The conditions that are shown -/

namespace Condition

/-- The conditions decoded from items, in the order of the items, that are of a type that is shown. -/
inductive Shown : List Json → List Condition → Prop
  | nil : Shown [] []
  | shown {j : Json} {c : Condition} {items : List Json} {cs : List Condition} (decoded : c.DecodedFrom j)
      (type : c.type = "Ready" ∨ c.type = "Released") (rest : Shown items cs) : Shown (j :: items) (c :: cs)
  | skipped {j : Json} {items : List Json} {cs : List Condition}
      (type : ∀ c : Condition, c.DecodedFrom j → c.type ≠ "Ready" ∧ c.type ≠ "Released")
      (rest : Shown items cs) : Shown (j :: items) cs

/-- The status of the first condition about readiness that is decoded from items, and `Unknown` if there is none. -/
inductive FirstReady : List Json → ConditionStatus → Prop
  | unknown : FirstReady [] .unknown
  | first {j : Json} {c : Condition} {items : List Json} (decoded : c.DecodedFrom j) (type : c.type = "Ready") :
      FirstReady (j :: items) c.status
  | later {j : Json} {items : List Json} {status : ConditionStatus}
      (type : ∀ c : Condition, c.DecodedFrom j → c.type ≠ "Ready") (rest : FirstReady items status) :
      FirstReady (j :: items) status

private theorem shown_filter (items : List Json) :
    Shown items ((items.filterMap ofJson?).filter ResourceDefinition.showsCondition) := by
  induction items with
  | nil => exact .nil
  | cons j items ih =>
    cases hj : ofJson? j with
    | none =>
      rw [List.filterMap_cons_none hj]
      exact .skipped (fun c hc => absurd hc (not_decodedFrom hj c)) ih
    | some c =>
      rw [List.filterMap_cons_some hj]
      have hdecoded := ofJson?_eq_some_iff.mp hj
      have hshows : ResourceDefinition.showsCondition c = true ↔ c.type = "Ready" ∨ c.type = "Released" := by
        simp [ResourceDefinition.showsCondition, ready, released]
      by_cases htype : c.type = "Ready" ∨ c.type = "Released"
      · rw [List.filter_cons_of_pos (hshows.mpr htype)]
        exact .shown hdecoded htype ih
      · rw [List.filter_cons_of_neg (hshows.not.mpr htype)]
        refine .skipped (fun c' hc' => ?_) ih
        rw [hdecoded.unique hc']
        exact not_or.mp htype

/-- Leaving out conditions that are not shown does not change which one about readiness comes first. -/
private theorem firstReady_filter (items : List Json) :
    FirstReady items ((((items.filterMap ofJson?).filter ResourceDefinition.showsCondition).find?
      (·.type == ready)).map (·.status) |>.getD .unknown) := by
  induction items with
  | nil => exact .unknown
  | cons j items ih =>
    cases hj : ofJson? j with
    | none =>
      rw [List.filterMap_cons_none hj]
      exact .later (fun c hc => absurd hc (not_decodedFrom hj c)) ih
    | some c =>
      rw [List.filterMap_cons_some hj]
      have hdecoded := ofJson?_eq_some_iff.mp hj
      by_cases htype : c.type = "Ready"
      · have hshown : ResourceDefinition.showsCondition c = true := by
          simp [ResourceDefinition.showsCondition, ready, htype]
        rw [List.filter_cons_of_pos hshown, List.find?_cons_of_pos (by simp [ready, htype])]
        exact .first hdecoded htype
      · -- Whether or not the condition is shown, the search goes past it.
        have hlater : ((c :: items.filterMap ofJson?).filter ResourceDefinition.showsCondition).find?
            (·.type == ready) = ((items.filterMap ofJson?).filter ResourceDefinition.showsCondition).find?
            (·.type == ready) := by
          rw [List.filter_cons]
          split
          · rw [List.find?_cons_of_neg (by simp [ready, htype])]
          · rfl
        rw [hlater]
        refine .later (fun c' hc' => ?_) ih
        rwa [hdecoded.unique hc']

end Condition

namespace ResourceDefinition

/-- A record whose status is an object with an array of conditions can be read just when it can be read with the empty
array.  Then its application shows, in the order of the array, the items that decode as conditions about readiness or
release, and the table tells the status of the first of them about readiness, if there is one. -/
theorem strange_conditions_hide_nothing (d : ResourceDefinition) {record : Record} {st : Members} {items : List Json}
    (hstatus : record.data.get? "status" = some (.object st))
    (hconditions : st.get? "conditions" = some (.array items)) :
    ((∃ r, Release.ofRecord record = .ok r) ↔ ∃ r, Release.ofRecord (record.withConditions []) = .ok r) ∧
    ∀ r, Release.ofRecord record = .ok r →
      Condition.Shown items (d.toApplication r).status.conditions ∧
      ∃ status, Condition.FirstReady items status ∧ ∀ now,
        ((Table.columns.map (·.1)).zip (Table.row now (d.toApplication r)).cells).lookup "READY" =
          some status.toText := by
  constructor
  · rw [Release.ofRecord_withConditions hstatus hconditions []]
    cases Release.ofRecord record with
    | ok r => exact ⟨fun _ => ⟨_, rfl⟩, fun _ => ⟨r, rfl⟩⟩
    | error fault => simp [Except.map]
  · intro r hr
    have hread : (d.toApplication r).status.conditions =
        (items.filterMap Condition.ofJson?).filter showsCondition :=
      congrArg (List.filter showsCondition) (Release.conditions_of_ofRecord hstatus hconditions hr)
    refine ⟨hread ▸ Condition.shown_filter items, _, Condition.firstReady_filter items, fun now => ?_⟩
    rw [← hread]
    rfl

/-- Items that are no conditions, between a release and two conditions about readiness. -/
def mixedConditions : List Json :=
  [.int 7, .null, .object [("type", .string "Ready"), ("status", .bool true)], .array [.int 1],
    .object [("type", .string "Released"), ("status", .string "Perhaps"), ("reason", .string "InstallSucceeded")],
    .object [("type", .string "Ready"), ("reason", .null)],
    .array [.string "Ready", .string "True"],
    .object [("type", .string "Ready"), ("status", .string "False")]]

def mixedRecord : Record where
  metadata := { name := some "myapp-shop", ns := some "default" }
  data := [("status", .object [("conditions", .array mixedConditions), ("lastAttemptedRevision", .string "1.2.0")])]

/-- Of conditions among other items those about readiness and release are shown, in order. -/
theorem mixed_conditions_are_sifted :
    ∃ r, Release.ofRecord mixedRecord = .ok r ∧
      (∃ r', Release.ofRecord (mixedRecord.withConditions []) = .ok r') ∧
      Condition.Shown mixedConditions (sampleType.toApplication r).status.conditions ∧
      (sampleType.toApplication r).status.conditions.map (fun c => (c.type, c.status)) =
        [("Released", .unknown), ("Ready", .isTrue), ("Ready", .isFalse)] := by
  have hshown : (Release.ofRecord mixedRecord).toOption.map
      (fun r => (sampleType.toApplication r).status.conditions.map fun c => (c.type, c.status)) =
        some [("Released", .unknown), ("Ready", .isTrue), ("Ready", .isFalse)] := by decide +kernel
  have hagree := @strange_conditions_hide_nothing sampleType mixedRecord _ mixedConditions rfl rfl
  cases hr : Release.ofRecord mixedRecord with
  | error fault =>
    rw [hr] at hshown
    cases hshown
  | ok r =>
    rw [hr] at hshown
    exact ⟨r, rfl, hagree.1.mp ⟨r, hr⟩, (hagree.2 r hr).1, Option.some.inj hshown⟩

end ResourceDefinition

end AppGateway
