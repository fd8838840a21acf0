import EventConsole.Profiles
import EventConsole.Proofs.Json.Decode
import EventConsole.Proofs.Json.Reader
import EventConsole.Proofs.SortedMap

/-!
Contract: the text of a profiles file reads back as the profiles that it was
written for, whatever their names, servers and users are.

A text gives a server under a name whatever the rest of it is. It is read as
profiles only when every part that is looked at is well formed, and then holds
exactly what it gives.

Owns: the records of an entry and of all profiles, their reading, the forms of one
server and of a whole file, and what is looked up in a file that is read or after a
profile was put in.
-/

namespace EventConsole

open Json

namespace ProfileEntry

theorem ofJson?_toJson (entry : ProfileEntry) : ofJson? entry.toJson = some entry := by
  obtain ⟨url, user⟩ := entry
  cases user with
  | none => rfl
  | some user => rfl

theorem exact_toJson (entry : ProfileEntry) : entry.toJson.Exact := by
  obtain ⟨url, user⟩ := entry
  cases user with
  | none => exact ⟨trivial, trivial⟩
  | some user => exact ⟨trivial, trivial, trivial⟩

end ProfileEntry

namespace Profiles

/-! ### Reading what was written -/

/-- The member that is written for a profile. -/
def memberOf (named : String × ProfileEntry) : String × Value := (named.1, named.2.toJson)

/-- Reads a member as a profile under its name. -/
def entryOf? (member : String × Value) : Option (String × ProfileEntry) :=
  (ProfileEntry.ofJson? member.2).bind fun entry => some (member.1, entry)

private theorem entryOf?_memberOf (named : String × ProfileEntry) :
    entryOf? (memberOf named) = some named := by
  rw [entryOf?, memberOf, ProfileEntry.ofJson?_toJson, Option.bind_some]

theorem entriesOfJson?_object (members : Members) :
    entriesOfJson? (.object members) =
      (members.mapM entryOf?).bind fun entries => some (SortedMap.ofList entries) :=
  rfl

private theorem entriesOfJson?_memberOf (map : SortedMap String ProfileEntry) :
    entriesOfJson? (.object (map.entries.map memberOf)) = some map := by
  have decoded : (map.entries.map memberOf).mapM entryOf? = some map.entries := by
    rw [mapM_eq_some_iff, List.map_map]
    exact List.map_congr_left fun named _ => entryOf?_memberOf named
  have sorted : SortedMap.ofList map.entries = map :=
    SortedMap.eq_of_entries (SortedMap.entries_ofList map.increasing)
  rw [entriesOfJson?_object, decoded, Option.bind_some, sorted]

/-- The two fields of a profiles file. -/
theorem ofJson?_fields (entries version : Value) :
    ofJson? (.object [("profiles", entries), ("version", version)]) =
      (entriesOfJson? entries).bind fun map =>
        (Value.word32? version).bind fun number => some ⟨map, number⟩ :=
  rfl

theorem ofJson?_toJson (profiles : Profiles) : ofJson? profiles.toJson = some profiles := by
  have entries := entriesOfJson?_memberOf profiles.entries
  have version : Value.word32? (.ofNat profiles.version.toNat) = some profiles.version :=
    Value.word32?_eq_some_iff.mpr rfl
  change ofJson? (.object [("profiles", .object (profiles.entries.entries.map memberOf)),
    ("version", .ofNat profiles.version.toNat)]) = _
  rw [ofJson?_fields, entries, version, Option.bind_some, Option.bind_some]

/-! ### Values without floating-point numbers -/

theorem membersExact_entries (entries : List (String × ProfileEntry)) :
    Value.MembersExact (entries.map memberOf) := by
  induction entries with
  | nil => trivial
  | cons named rest inductionHypothesis =>
      exact ⟨named.2.exact_toJson, inductionHypothesis⟩

theorem exact_toJson (profiles : Profiles) : profiles.toJson.Exact :=
  ⟨membersExact_entries profiles.entries.entries, trivial, trivial⟩

/-! ### Files -/

/-- Profiles read back from the text of their file. -/
theorem ofText?_fileText (profiles : Profiles) : ofText? profiles.fileText = some profiles := by
  rw [ofText?, fileText, readRecord?_pretty profiles.exact_toJson, Option.bind_some,
    ofJson?_toJson]

theorem load_fileText (profiles : Profiles) : load (some profiles.fileText) = profiles := by
  rw [load, Option.bind_some, ofText?_fileText, Option.getD_some]

/-- Profiles come back from the text of their file, and a file that was loaded and
saved is loaded as before, also when it could not be read. -/
theorem restores_saved :
    (∀ profiles : Profiles, ofText? profiles.fileText = some profiles) ∧
      ∀ file : Option String, load (some (load file).fileText) = load file :=
  ⟨ofText?_fileText, fun file => load_fileText (load file)⟩

/-! ### Looking up after a profile was put in -/

theorem get?_insert_self (profiles : Profiles) (name : String) (entry : ProfileEntry) :
    (profiles.insert name entry).get? name = some entry :=
  profiles.entries.get?_insert_self name entry

theorem get?_insert_of_ne (profiles : Profiles) {name other : String} (entry : ProfileEntry)
    (different : other ≠ name) :
    (profiles.insert name entry).get? other = profiles.get? other :=
  profiles.entries.get?_insert_of_ne entry different

/-- Profiles that hold an entry under a name and are otherwise those from before. -/
structure Puts (before : Profiles) (name : String) (entry : ProfileEntry) (after : Profiles) :
    Prop where
  named : after.get? name = some entry
  others : ∀ other, other ≠ name → after.get? other = before.get? other
  version : after.version = before.version

theorem puts_insert (profiles : Profiles) (name : String) (entry : ProfileEntry) :
    profiles.Puts name entry (profiles.insert name entry) where
  named := profiles.get?_insert_self name entry
  others _ different := profiles.get?_insert_of_ne entry different
  version := rfl

end Profiles

namespace ProfileEntry

/-! ### Servers -/

/-- The fields of a server, in their order. -/
def fieldNames : List String := ["url", "user"]

/-- A value that describes a server: a record of its URL and its user, of which the
user may be absent or null, or the list of both. -/
inductive Describes : Value → ProfileEntry → Prop where
  | record {fields : Members} {url : String} {user : Option String}
      (isUrl : lastMember? "url" fields = some (.string url))
      (isUser : Value.GivesText (lastMember? "user" fields) user) :
      Describes (.object fields) ⟨url, user⟩
  | row {rest : List Value} {url : String} {user : Option String} (short : rest.length ≤ 1)
      (isUser : Value.GivesText rest.head? user) :
      Describes (.array (.string url :: rest)) ⟨url, user⟩

/-- A server is read from the fields of its value. -/
theorem ofJson?_eq_some_iff_fields {item : Value} {entry : ProfileEntry} :
    ofJson? item = some entry ↔ ∃ field, item.singleFields? fieldNames = some field ∧
      field "url" = some (.string entry.url) ∧ Value.GivesText (field "user") entry.user := by
  simp only [ofJson?, Option.bind_eq_bind, Option.pure_def, Option.bind_eq_some_iff,
    Value.text?_eq_some_iff, Value.optional?_text?_eq_some_iff, fieldNames]
  constructor
  · rintro ⟨field, read, value, isUrl, url, rfl, user, isUser, isEntry⟩
    obtain rfl := Option.some.inj isEntry
    exact ⟨field, read, isUrl, isUser⟩
  · rintro ⟨field, read, isUrl, isUser⟩
    exact ⟨field, read, _, isUrl, _, rfl, _, isUser, rfl⟩

theorem ofJson?_record_iff {fields : Members} {entry : ProfileEntry} :
    ofJson? (.object fields) = some entry ↔
      Describes (.object fields) entry ∧ (Value.object fields).Once fieldNames := by
  rw [ofJson?_eq_some_iff_fields]
  constructor
  · rintro ⟨field, read, isUrl, isUser⟩
    obtain ⟨once, rfl⟩ := Value.singleFields?_object_eq_some_iff.mp read
    have sameUrl := lastMember?_of_isSingle (once "url" (by decide))
    have sameUser := lastMember?_of_isSingle (once "user" (by decide))
    exact ⟨.record (sameUrl.trans isUrl) (by rw [sameUser]; exact isUser), once⟩
  · rintro ⟨⟨isUrl, isUser⟩, once⟩
    have sameUrl := lastMember?_of_isSingle (once "url" (by decide))
    have sameUser := lastMember?_of_isSingle (once "user" (by decide))
    exact ⟨_, Value.singleFields?_object_eq_some_iff.mpr ⟨once, rfl⟩, sameUrl.symm.trans isUrl,
      by rw [← sameUser]; exact isUser⟩

private theorem singleFields?_row (first : Value) {rest : List Value} (short : rest.length ≤ 1) :
    ∃ field, (Value.array (first :: rest)).singleFields? fieldNames = some field ∧
      field "url" = some first ∧ field "user" = rest.head? := by
  refine ⟨_, if_pos (Nat.succ_le_succ short), rfl, ?_⟩
  cases rest <;> rfl

theorem ofJson?_row_iff {items : List Value} {entry : ProfileEntry} :
    ofJson? (.array items) = some entry ↔ Describes (.array items) entry := by
  rw [ofJson?_eq_some_iff_fields]
  constructor
  · rintro ⟨field, read, isUrl, isUser⟩
    cases items with
    | nil =>
        obtain rfl := Option.some.inj read
        contradiction
    | cons first rest =>
        obtain ⟨short, -⟩ := Option.ite_none_right_eq_some.mp read
        have fits : rest.length ≤ 1 := Nat.le_of_succ_le_succ short
        obtain ⟨other, readToo, isFirst, isSecond⟩ := singleFields?_row first fits
        obtain rfl := Option.some.inj (read.symm.trans readToo)
        obtain rfl := Option.some.inj (isFirst.symm.trans isUrl)
        exact .row fits (by rw [← isSecond]; exact isUser)
  · intro describes
    cases describes with
    | @row rest url user short isUser =>
        obtain ⟨field, read, isFirst, isSecond⟩ := singleFields?_row (.string url) short
        exact ⟨field, read, isFirst, by rw [isSecond]; exact isUser⟩

/-- A server is read from a value that describes it and gives no field twice. -/
theorem ofJson?_eq_some_iff {item : Value} {entry : ProfileEntry} :
    ofJson? item = some entry ↔ Describes item entry ∧ item.Once fieldNames := by
  cases item with
  | object fields => exact ofJson?_record_iff
  | array items => exact ofJson?_row_iff.trans (and_iff_left trivial).symm
  | null | boolean | number | string => exact iff_of_false nofun fun both => nomatch both.1

/-- A value that is read as a server. -/
structure WellFormed (item : Value) : Prop where
  describes : ∃ entry, Describes item entry
  once : item.Once fieldNames

theorem isSome_ofJson?_iff {item : Value} : (ofJson? item).isSome = true ↔ WellFormed item := by
  simp only [Option.isSome_iff_exists, ofJson?_eq_some_iff]
  constructor
  · rintro ⟨entry, describes, once⟩
    exact ⟨⟨entry, describes⟩, once⟩
  · rintro ⟨⟨entry, describes⟩, once⟩
    exact ⟨entry, describes, once⟩

end ProfileEntry

namespace Profiles

/-! ### Files that are read -/

/-- Whether a text gives a server under a name: in an object, whose last member
`profiles` is an object, whose last member of the name describes the server. -/
def Gives (text name : String) (entry : ProfileEntry) : Prop :=
  ∃ members profiles item, readRecord? text = some (.object members) ∧
    lastMember? "profiles" members = some (.object profiles) ∧
    lastMember? name profiles = some item ∧ ProfileEntry.Describes item entry

/-- The fields of a profiles file. -/
def fieldNames : List String := ["profiles", "version"]

/-- A record of profiles of which every part that is looked at is well formed. -/
structure WellFormed (members : Members) : Prop where
  once : (Value.object members).Once fieldNames
  profiles : ∀ value, lookup? "profiles" members = some value →
    ∃ profiles, value = .object profiles ∧ ∀ named ∈ profiles, ProfileEntry.WellFormed named.2
  version : ∀ value, lookup? "version" members = some value →
    ∃ number : UInt32, value = .ofNat number.toNat

theorem isSome_entryOf?_iff {named : String × Value} :
    (entryOf? named).isSome = true ↔ ProfileEntry.WellFormed named.2 := by
  rw [← ProfileEntry.isSome_ofJson?_iff, entryOf?]
  cases ProfileEntry.ofJson? named.2 <;> rfl

theorem isSome_entriesOfJson?_iff {value : Value} :
    (entriesOfJson? value).isSome = true ↔
      ∃ profiles, value = .object profiles ∧
        ∀ named ∈ profiles, ProfileEntry.WellFormed named.2 := by
  cases value with
  | object profiles =>
      have decodes : (entriesOfJson? (.object profiles)).isSome = true ↔
          ∀ named ∈ profiles, (entryOf? named).isSome = true := by
        rw [entriesOfJson?_object, ← isSome_mapM_iff]
        cases profiles.mapM entryOf? <;> rfl
      simp only [decodes, isSome_entryOf?_iff, Value.object.injEq, exists_eq_left']
  | null | boolean | number | string | array =>
      exact iff_of_false Bool.false_ne_true fun ⟨_, isObject, _⟩ => nomatch isObject

/-- The two fields of a record of profiles. -/
theorem ofJson?_object_eq_some_iff {members : Members} {profiles : Profiles} :
    ofJson? (.object members) = some profiles ↔
      (Value.object members).Once fieldNames ∧
        Value.defaulting? entriesOfJson? SortedMap.empty (lookup? "profiles" members) =
          some profiles.entries ∧
        Value.defaulting? Value.word32? 0 (lookup? "version" members) = some profiles.version := by
  simp only [ofJson?, Option.bind_eq_bind, Option.pure_def, Option.bind_eq_some_iff]
  constructor
  · rintro ⟨field, read, entries, isEntries, version, isVersion, isProfiles⟩
    obtain ⟨once, rfl⟩ := Value.singleFields?_object_eq_some_iff.mp read
    obtain rfl := Option.some.inj isProfiles
    exact ⟨once, isEntries, isVersion⟩
  · rintro ⟨once, isEntries, isVersion⟩
    exact ⟨_, Value.singleFields?_object_eq_some_iff.mpr ⟨once, rfl⟩, _, isEntries, _, isVersion,
      rfl⟩

/-- A record is read as profiles when it is well formed, and only then. -/
theorem isSome_ofJson?_object_iff {members : Members} :
    (ofJson? (.object members)).isSome = true ↔ WellFormed members := by
  have parts : (ofJson? (.object members)).isSome = true ↔
      (Value.object members).Once fieldNames ∧
        (Value.defaulting? entriesOfJson? SortedMap.empty
          (lookup? "profiles" members)).isSome = true ∧
        (Value.defaulting? Value.word32? 0 (lookup? "version" members)).isSome = true := by
    simp only [Option.isSome_iff_exists, ofJson?_object_eq_some_iff]
    constructor
    · rintro ⟨profiles, once, isEntries, isVersion⟩
      exact ⟨once, ⟨_, isEntries⟩, ⟨_, isVersion⟩⟩
    · rintro ⟨once, ⟨entries, isEntries⟩, version, isVersion⟩
      exact ⟨⟨entries, version⟩, once, isEntries, isVersion⟩
  have isWord (value : Value) : (Value.word32? value).isSome = true ↔
      ∃ number : UInt32, value = .ofNat number.toNat := by
    simp only [Option.isSome_iff_exists, Value.word32?_eq_some_iff]
  rw [parts, Value.isSome_defaulting?_iff, Value.isSome_defaulting?_iff]
  simp only [isSome_entriesOfJson?_iff, isWord]
  exact ⟨fun ⟨once, profiles, version⟩ => ⟨once, profiles, version⟩,
    fun ⟨once, profiles, version⟩ => ⟨once, profiles, version⟩⟩

/-! ### Looking up in a file -/

theorem valueIn_of_mapM {members : Members} {entries : List (String × ProfileEntry)}
    (decoded : members.mapM entryOf? = some entries) (name : String) :
    SortedMap.valueIn name entries = (lookup? name members).bind ProfileEntry.ofJson? := by
  induction members generalizing entries with
  | nil =>
      obtain rfl := Option.some.inj decoded
      rfl
  | cons member rest inductionHypothesis =>
      obtain ⟨key, item⟩ := member
      simp only [List.mapM_cons, Option.bind_eq_bind, Option.pure_def, Option.bind_eq_some_iff,
        entryOf?, Option.some.injEq] at decoded
      obtain ⟨_, ⟨entry, isEntry, rfl⟩, others, restDecoded, rfl⟩ := decoded
      rw [SortedMap.valueIn_cons, lookup?, inductionHypothesis restDecoded]
      simp only [Std.LawfulEqCmp.compare_eq_iff_eq, eq_comm (a := name)]
      split
      · exact isEntry.symm
      · rfl

private theorem get?_of_entriesOfJson? {members : Members} {map : SortedMap String ProfileEntry}
    (read : entriesOfJson? (.object members) = some map) (name : String) :
    map.get? name = (lastMember? name members).bind ProfileEntry.ofJson? := by
  rw [entriesOfJson?_object] at read
  obtain ⟨entries, decoded, isMap⟩ := Option.bind_eq_some_iff.mp read
  obtain rfl := Option.some.inj isMap
  rw [SortedMap.get?_ofList, valueIn_of_mapM (mapM_reverse decoded), lastMember?]

/-- What a text gives is what is looked up when the text is read. -/
theorem get?_of_gives {text name : String} {entry : ProfileEntry} {profiles : Profiles}
    (read : ofText? text = some profiles) (gives : Gives text name entry) :
    profiles.get? name = some entry := by
  obtain ⟨members, items, item, isRecord, isItems, isItem, describes⟩ := gives
  rw [ofText?, isRecord, Option.bind_some] at read
  obtain ⟨once, isEntries, -⟩ := ofJson?_object_eq_some_iff.mp read
  rw [← lastMember?_of_isSingle (once "profiles" (by decide)), isItems] at isEntries
  have isFound := get?_of_entriesOfJson? isEntries name
  rw [isItem, Option.bind_some] at isFound
  obtain ⟨_, isObject, allRead⟩ :=
    isSome_entriesOfJson?_iff.mp (Option.isSome_of_eq_some isEntries)
  obtain rfl := Value.object.inj isObject
  have once := (allRead _ (mem_of_lastMember? isItem)).once
  rw [get?, isFound]
  exact ProfileEntry.ofJson?_eq_some_iff.mpr ⟨describes, once⟩

theorem gives_fileText_iff {profiles : Profiles} {name : String} {entry : ProfileEntry} :
    Gives profiles.fileText name entry ↔ profiles.get? name = some entry := by
  refine ⟨get?_of_gives (ofText?_fileText profiles), fun found => ?_⟩
  rw [get?, get?_of_entriesOfJson? (entriesOfJson?_memberOf profiles.entries)] at found
  obtain ⟨item, isItem, isEntry⟩ := Option.bind_eq_some_iff.mp found
  have isRecord : readRecord? profiles.fileText = some profiles.toJson :=
    readRecord?_pretty profiles.exact_toJson
  exact ⟨_, _, item, isRecord, rfl, isItem, (ProfileEntry.ofJson?_eq_some_iff.mp isEntry).1⟩

end Profiles

end EventConsole
