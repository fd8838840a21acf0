import EventConsole.Event
import EventConsole.Proofs.Json.Decode

/-!
Contract: an event and a page of events read back from the record written for
them.

Owns: what an event has to do with the members it was read from, and that its
written form reads as the same event; the records of a page in both of its
forms, and the same for pages.
-/

namespace EventConsole

open Json

namespace Event

/-! ### Reading -/

/-- An event and the members it was read from. -/
structure ReadFrom (event : Event) (members : Members) : Prop where
  known : ∀ field ∈ event.knownFields,
    Value.optional? Value.text? (lookup? field.1 members) = some field.2
  extra : event.extra = members.filter fun member => !knownNames.contains member.1
  raw : event.raw = .object members

theorem ofJson?_eq_some_iff {value : Value} {event : Event} :
    ofJson? value = some event ↔ ∃ members, value = .object members ∧ event.ReadFrom members := by
  constructor
  · intro isRead
    cases value with
    | object members =>
        simp only [ofJson?, Value.members?, Option.bind_eq_bind, Option.bind_some,
          Option.bind_eq_some_iff] at isRead
        obtain ⟨_, timestamp, _, agentId, _, eventType, _, severity, _, user, _, sourceIp, _, ip,
          _, message, _, rawLog, isEvent⟩ := isRead
        obtain rfl := Option.some.inj isEvent
        refine ⟨members, rfl, ?_, rfl, rfl⟩
        simp only [knownFields, List.forall_mem_cons]
        exact ⟨timestamp, agentId, eventType, severity, user, sourceIp, ip, message, rawLog,
          by simp⟩
    | null | boolean | number | string | array => contradiction
  · rintro ⟨members, rfl, known, extra, raw⟩
    simp only [knownFields, List.forall_mem_cons] at known
    obtain ⟨timestamp, agentId, eventType, severity, user, sourceIp, ip, message, rawLog, -⟩ :=
      known
    simp only [ofJson?, Value.members?, Option.bind_eq_bind, Option.bind_some, timestamp, agentId,
      eventType, severity, user, sourceIp, ip, message, rawLog, ← extra, ← raw]
    rfl

/-- The record shown for an event is the one that it was read from. -/
theorem record_of_ofJson? {value : Value} {event : Event} (isRead : ofJson? value = some event) :
    event.record = value := by
  obtain ⟨members, rfl, isEvent⟩ := ofJson?_eq_some_iff.mp isRead
  rw [record, isEvent.raw]

/-- No extra member takes the name of a known field. -/
def ExtraUnknown (event : Event) : Prop := ∀ member ∈ event.extra, member.1 ∉ knownNames

theorem extraUnknown_of_ofJson? {value : Value} {event : Event}
    (isRead : ofJson? value = some event) : event.ExtraUnknown := by
  obtain ⟨members, -, isEvent⟩ := ofJson?_eq_some_iff.mp isRead
  intro member isExtra
  rw [isEvent.extra] at isExtra
  simpa using (List.mem_filter.mp isExtra).2

theorem extraUnknown_of_listOf? {value : Value} {events : List Event}
    (isRead : Value.listOf? ofJson? value = some events) :
    ∀ event ∈ events, event.ExtraUnknown := by
  obtain ⟨_, _, decoded⟩ := Option.bind_eq_some_iff.mp isRead
  intro event member
  obtain ⟨_, _, isEvent⟩ := exists_mem_of_mapM decoded member
  exact extraUnknown_of_ofJson? isEvent

/-! ### Writing -/

/-- The members that are written for fields; absent ones are left out. -/
def fieldMembers (fields : List (String × Option String)) : Members :=
  fields.filterMap fun field => field.2.map fun text => (field.1, Value.string text)

private theorem name_mem_of_mem_fieldMembers {fields : List (String × Option String)}
    {member : String × Value} (written : member ∈ fieldMembers fields) :
    member.1 ∈ fields.map Prod.fst := by
  obtain ⟨field, isField, isMember⟩ := List.mem_filterMap.mp written
  obtain ⟨text, _, rfl⟩ := Option.map_eq_some_iff.mp isMember
  exact List.mem_map_of_mem isField

private theorem lookup?_fieldMembers {fields : List (String × Option String)}
    (distinct : (fields.map Prod.fst).Nodup) {field : String × Option String}
    (member : field ∈ fields) :
    lookup? field.1 (fieldMembers fields) = field.2.map Value.string := by
  induction fields with
  | nil => contradiction
  | cons first rest inductionHypothesis =>
      rw [List.map_cons, List.nodup_cons] at distinct
      have split : fieldMembers (first :: rest) =
          fieldMembers [first] ++ fieldMembers rest :=
        List.filterMap_append (l := [first])
      rw [split, lookup?_append]
      rcases List.mem_cons.mp member with rfl | inRest
      · have absent : lookup? field.1 (fieldMembers rest) = none := by
          apply lookup?_eq_none
          intro other written sameName
          exact distinct.1 (sameName ▸ name_mem_of_mem_fieldMembers written)
        rw [absent]
        cases text : field.2 <;> simp [fieldMembers, lookup?, text]
      · have notFirst : field.1 ≠ first.1 := fun same =>
          distinct.1 (same ▸ List.mem_map_of_mem inRest)
        rw [inductionHypothesis distinct.2 inRest]
        cases text : first.2 <;> simp [fieldMembers, lookup?, text, notFirst.symm]

theorem toJson_eq (event : Event) :
    event.toJson = .object (fieldMembers event.knownFields ++ event.extra) := rfl

/-- An event as it is read from its own written form. -/
def asWritten (event : Event) : Event := { event with raw := event.toJson }

/-- The written form reads as the event, as long as no extra member takes the
name of a known field. -/
theorem ofJson?_toJson {event : Event} (unknown : event.ExtraUnknown) :
    ofJson? event.toJson = some event.asWritten := by
  have names : event.knownFields.map Prod.fst = knownNames := rfl
  refine ofJson?_eq_some_iff.mpr ⟨_, toJson_eq event, ?_, ?_, toJson_eq event⟩
  · intro field (isKnown : field ∈ event.knownFields)
    have absent : lookup? field.1 event.extra = none := by
      apply lookup?_eq_none
      intro member isExtra sameName
      exact unknown member isExtra (sameName ▸ names ▸ List.mem_map_of_mem isKnown)
    rw [lookup?_append, absent, Option.or_none,
      lookup?_fieldMembers (by rw [names]; decide) isKnown]
    cases field.2 <;> rfl
  · have writtenKnown : (fieldMembers event.knownFields).filter
        (fun member => !knownNames.contains member.1) = [] := by
      rw [List.filter_eq_nil_iff]
      intro member written
      have known := name_mem_of_mem_fieldMembers written
      rw [names] at known
      simp [known]
    have extraKept : event.extra.filter (fun member => !knownNames.contains member.1) =
        event.extra := by
      rw [List.filter_eq_self]
      intro member isExtra
      simp [unknown member isExtra]
    rw [List.filter_append, writtenKnown, extraKept]
    rfl

/-! ### Lists -/

/-- A list of events, or null where there is none. -/
def listJson : Option (List Event) → Value
  | some events => .array (events.map toJson)
  | none => .null

theorem optional?_listJson {events : Option (List Event)}
    (unknown : ∀ list, events = some list → ∀ event ∈ list, event.ExtraUnknown) :
    Value.optional? (Value.listOf? ofJson?) (some (listJson events)) =
      some (events.map fun list => list.map asWritten) := by
  cases events with
  | none => rfl
  | some list =>
      apply Value.optional?_array
      rw [mapM_eq_some_iff, List.map_map, List.map_map]
      exact List.map_congr_left fun event member => ofJson?_toJson (unknown list rfl event member)

end Event

/-! ### Pages -/

namespace EventsPage

/-- A page and the fields it was read from. -/
structure ReadFrom (page : EventsPage) (field : String → Option Value) : Prop where
  status : Value.optional? Value.text? (field "status") = some page.status
  data : Value.optional? (Value.listOf? Event.ofJson?) (field "data") = some page.data
  total : Value.optional? Value.natural? (field "total") = some page.total
  count : Value.optional? Value.natural? (field "count") = some page.count
  totalPages : Value.optional? Value.word32? (field "totalPages") = some page.totalPages
  number : Value.optional? Value.word32? (field "page") = some page.page
  limit : Value.optional? Value.word32? (field "limit") = some page.limit

theorem ofJson?_eq_some_iff {value : Value} {page : EventsPage} :
    ofJson? value = some page ↔
      ∃ field, value.fields? fieldNames = some field ∧ page.ReadFrom field := by
  constructor
  · intro isRead
    simp only [ofJson?, Option.bind_eq_bind, Option.bind_eq_some_iff] at isRead
    obtain ⟨field, isRecord, _, status, _, data, _, total, _, count, _, totalPages, _, number, _,
      limit, isPage⟩ := isRead
    obtain rfl := Option.some.inj isPage
    exact ⟨field, isRecord, status, data, total, count, totalPages, number, limit⟩
  · rintro ⟨field, isRecord, status, data, total, count, totalPages, number, limit⟩
    simp only [ofJson?, isRecord, Option.bind_eq_bind, Option.bind_some, status, data, total,
      count, totalPages, number, limit]
    rfl

/-- The records of a page: its member `data`, or the second of its items. -/
def records? : Value → Option (List Value)
  | .object members => (lookup? "data" members).bind Value.items?
  | .array (_ :: data :: _) => data.items?
  | _ => none

private theorem field_data {value : Value} {field : String → Option Value}
    (isRecord : value.fields? fieldNames = some field) :
    (field "data").bind Value.items? = records? value := by
  unfold Value.fields? at isRecord
  split at isRecord
  case h_1 members =>
    obtain rfl := Option.some.inj isRecord
    rfl
  case h_2 items =>
    split at isRecord
    case isFalse => contradiction
    obtain rfl := Option.some.inj isRecord
    match items with
    | [] => rfl
    | [_] => rfl
    | _ :: _ :: _ => rfl
  case h_3 => contradiction

/-- The events of a page are read from its records, one from each. -/
theorem mapM_records {value : Value} {page : EventsPage} {events : List Event}
    (isRead : ofJson? value = some page) (data : page.data = some events) :
    ∃ records, records? value = some records ∧ records.mapM Event.ofJson? = some events := by
  obtain ⟨field, isRecord, isPage⟩ := ofJson?_eq_some_iff.mp isRead
  have isData := isPage.data
  rw [data] at isData
  obtain ⟨value, isField, isList⟩ := Value.exists_of_optional?_eq_some isData
  obtain ⟨records, isItems, decoded⟩ := Option.bind_eq_some_iff.mp isList
  refine ⟨records, ?_, decoded⟩
  rw [← field_data isRecord, isField]
  exact isItems

theorem extraUnknown_data {value : Value} {page : EventsPage} (isRead : ofJson? value = some page) :
    ∀ events, page.data = some events → ∀ event ∈ events, event.ExtraUnknown := by
  intro events data event member
  obtain ⟨records, -, decoded⟩ := mapM_records isRead data
  obtain ⟨record, -, isEvent⟩ := exists_mem_of_mapM decoded member
  exact Event.extraUnknown_of_ofJson? isEvent

/-! ### Writing -/

/-- A page as it is read from its own written form. -/
def asWritten (page : EventsPage) : EventsPage :=
  { page with data := page.data.map fun events => events.map Event.asWritten }

private theorem optional?_ofText? (text : Option String) :
    Value.optional? Value.text? (some (Value.ofText? text)) = some text := by
  cases text <;> rfl

private theorem optional?_word64Json (word : Option UInt64) :
    Value.optional? Value.natural? (some (word64Json word)) = some word := by
  cases word <;> rfl

theorem optional?_word32Json (word : Option UInt32) :
    Value.optional? Value.word32? (some (word32Json word)) = some word := by
  cases word with
  | none => rfl
  | some value =>
      rw [word32Json, Value.optional?_ofNat_word32 value.toNat_lt, UInt32.ofNat_toNat]

theorem ofJson?_toJson {page : EventsPage}
    (unknown : ∀ events, page.data = some events → ∀ event ∈ events, event.ExtraUnknown) :
    ofJson? page.toJson = some page.asWritten := by
  refine ofJson?_eq_some_iff.mpr ⟨_, rfl, ?_⟩
  exact
    { status := optional?_ofText? page.status
      data := Event.optional?_listJson unknown
      total := optional?_word64Json page.total
      count := optional?_word64Json page.count
      totalPages := optional?_word32Json page.totalPages
      number := optional?_word32Json page.page
      limit := optional?_word32Json page.limit }

end EventsPage

end EventConsole
