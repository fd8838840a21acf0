import EventConsole.Proofs.CommandLine.Saving
import EventConsole.Proofs.Profiles

/-!
Contract: what becomes of the other servers of a profiles file when a run is told
the name of a profile and a URL.

A file that is well formed in all its parts keeps them. Any other file counts as
empty: the name is then a new one, its server is saved at once, and no other server
is left.

Owns: the servers that a file gives, before and after a run.
-/

namespace EventConsole.CommandLine

open Json

/-- Whether a file gives a server under a name. -/
def FileGives (file : Option String) (name : String) (entry : ProfileEntry) : Prop :=
  ∃ text, file = some text ∧ Profiles.Gives text name entry

/-- Whether a run is told the name of a profile and a URL, if its arguments can be
read at all. -/
def Setting.Names (setting : Setting) (name : String) : Prop :=
  ∀ arguments, parse setting.arguments = .ok arguments →
    arguments.profile = some name ∧ arguments.url.isSome = true

/-- Whether a run looks at its profiles: it can read its arguments and they ask for
no demo. -/
def Setting.LooksUp (setting : Setting) : Prop :=
  ∃ arguments, parse setting.arguments = .ok arguments ∧ isDemo arguments = false

theorem Permitted.named {arguments : Arguments} {profiles : Profiles} {input : List Char}
    {name : String} {entry : ProfileEntry}
    (permitted : Permitted arguments profiles input name entry) : arguments.profile = some name := by
  cases permitted with
  | added named | replaced named | typed named => exact named

theorem profiles_eq {setting : Setting} {text : String} (isFile : setting.file = some text) :
    setting.profiles = (Profiles.ofText? text).getD .empty := by
  rw [Setting.profiles, isFile]
  rfl

section Runs

variable {setting : Setting} {name other text : String} {entry : ProfileEntry}

/-- A run that is told a name keeps its file or saves a server under that name. -/
theorem file_run_of_names (named : setting.Names name) :
    (run setting).file = setting.file ∨
      ∃ saved, (run setting).file = some (setting.profiles.insert name saved).fileText := by
  rcases keeps_or_maySave setting with keeps | ⟨arguments, given, saved, may⟩
  · exact .inl (file_of_keeps keeps)
  · have sameName : given = name :=
      Option.some.inj (may.permitted.named.symm.trans (named arguments may.parsed).1)
    rw [file_of_maySave may, sameName]
    exact .inr ⟨saved, rfl⟩

/-- A file that is read keeps the other servers that it gives. -/
theorem fileGives_of_read {profiles : Profiles} (named : setting.Names name)
    (isFile : setting.file = some text) (read : Profiles.ofText? text = some profiles)
    (gives : Profiles.Gives text other entry) (neighbour : other ≠ name) :
    FileGives (run setting).file other entry := by
  rcases file_run_of_names named with kept | ⟨saved, isSaved⟩
  · exact ⟨text, kept.trans isFile, gives⟩
  · have isProfiles : setting.profiles = profiles := by
      rw [profiles_eq isFile, read]
      rfl
    have found : (profiles.insert name saved).get? other = some entry := by
      rw [Profiles.get?_insert_of_ne profiles saved neighbour]
      exact Profiles.get?_of_gives read gives
    rw [isSaved, isProfiles]
    exact ⟨_, rfl, Profiles.gives_fileText_iff.mpr found⟩

/-- From a file that is not read, a run that looks at its profiles saves the named
server alone. -/
theorem exists_alone_of_unread (named : setting.Names name) (looks : setting.LooksUp)
    (isFile : setting.file = some text) (unread : Profiles.ofText? text = none) :
    ∃ saved, (run setting).file = some (Profiles.empty.insert name saved).fileText := by
  obtain ⟨arguments, parsed, noDemo⟩ := looks
  obtain ⟨isName, hasUrl⟩ := named arguments parsed
  obtain ⟨url, isUrl⟩ := Option.isSome_iff_exists.mp hasUrl
  have isEmpty : setting.profiles = .empty := by
    rw [profiles_eq isFile, unread]
    rfl
  have absent : setting.profiles.get? name = none := by
    rw [isEmpty]
    rfl
  rw [file_of_maySave ⟨parsed, noDemo, .added isName isUrl absent⟩, isEmpty]
  exact ⟨_, rfl⟩

private theorem not_fileGives_of_unread (named : setting.Names name) (looks : setting.LooksUp)
    (isFile : setting.file = some text) (unread : Profiles.ofText? text = none)
    (neighbour : other ≠ name) : ¬ FileGives (run setting).file other entry := by
  rintro ⟨after, isAfter, gives⟩
  obtain ⟨saved, isSaved⟩ := exists_alone_of_unread named looks isFile unread
  obtain rfl := Option.some.inj (isSaved.symm.trans isAfter)
  have found := Profiles.gives_fileText_iff.mp gives
  rw [Profiles.get?_insert_of_ne _ saved neighbour] at found
  contradiction

private theorem fileGives_of_not_looksUp (unread : ¬ setting.LooksUp)
    (isFile : setting.file = some text)
    (gives : Profiles.Gives text other entry) : FileGives (run setting).file other entry := by
  have keeps : setting.Keeps := by
    rcases keeps_or_maySave setting with keeps | ⟨arguments, _, _, may⟩
    · exact keeps
    · exact absurd ⟨arguments, may.parsed, may.noDemo⟩ unread
  exact ⟨text, (file_of_keeps keeps).trans isFile, gives⟩

end Runs

/-- A run that is told a name and a URL keeps another server of its file exactly when
it does not look at its profiles, or all of the file is well formed. -/
theorem keeps_neighbour_iff {setting : Setting} {name other text : String} {entry : ProfileEntry}
    {members : Members} (named : setting.Names name) (isFile : setting.file = some text)
    (isRecord : readRecord? text = some (.object members))
    (gives : Profiles.Gives text other entry) (neighbour : other ≠ name) :
    FileGives (run setting).file other entry ↔
      (setting.LooksUp → Profiles.WellFormed members) := by
  have read : Profiles.ofText? text = Profiles.ofJson? (.object members) := by
    rw [Profiles.ofText?, isRecord]
    rfl
  constructor
  · intro kept looks
    rw [← Profiles.isSome_ofJson?_object_iff, ← read, Option.isSome_iff_ne_none]
    intro unread
    exact not_fileGives_of_unread named looks isFile unread neighbour kept
  · intro wellFormed
    by_cases looks : setting.LooksUp
    · obtain ⟨profiles, isProfiles⟩ := Option.isSome_iff_exists.mp
        (Profiles.isSome_ofJson?_object_iff.mpr (wellFormed looks))
      exact fileGives_of_read named isFile (read.trans isProfiles) gives neighbour
    · exact fileGives_of_not_looksUp looks isFile gives

/-- A file text with a part that nobody reads, and a server whose user is null. -/
def roomyRecord : Members :=
  [("theme", .array [.null]),
    ("profiles", .object
      [("lab", .object [("url", .string "http://lab:1"), ("user", .null), ("note", .boolean true)]),
        ("prod", .array [.string "http://one:1", .string "root"])]),
    ("version", .ofNat 7)]

/-- A run that puts another server in the place of one. -/
def replacing : Setting where
  program := "siemtop"
  arguments := ["--profile", "prod", "http://two:2", "--save"]
  input := ""
  logFilter := none
  file := some (Value.object roomyRecord).pretty

theorem keeps_neighbour_replacing :
    replacing.Names "prod" ∧ replacing.file = some (Value.object roomyRecord).pretty ∧
      readRecord? (Value.object roomyRecord).pretty = some (.object roomyRecord) ∧
      Profiles.Gives (Value.object roomyRecord).pretty "lab" ⟨"http://lab:1", none⟩ ∧
      "lab" ≠ "prod" ∧ FileGives (run replacing).file "lab" ⟨"http://lab:1", none⟩ := by
  have named : replacing.Names "prod" := by
    intro arguments parsed
    obtain rfl := Except.ok.inj parsed
    decide
  have isRecord : readRecord? (Value.object roomyRecord).pretty = some (.object roomyRecord) :=
    readRecord?_pretty (by simp [roomyRecord, Value.Exact, Value.MembersExact, Value.ItemsExact,
      Value.ofNat, Number.Whole])
  have gives : Profiles.Gives (Value.object roomyRecord).pretty "lab" ⟨"http://lab:1", none⟩ :=
    ⟨_, _, _, isRecord, rfl, rfl, .record rfl .null⟩
  have wellFormed : Profiles.WellFormed roomyRecord :=
    Profiles.isSome_ofJson?_object_iff.mp (by rfl)
  exact ⟨named, rfl, isRecord, gives, by decide,
    (keeps_neighbour_iff named rfl isRecord gives (by decide)).mpr fun _ => wellFormed⟩

/-- A file text in which one of two servers has no URL. -/
def brokenRecord : Members :=
  [("profiles", .object
      [("lab", .object [("url", .string "http://lab:1"), ("user", .string "root")]),
        ("old", .object [("user", .string "ada")])]),
    ("version", .ofNat 1)]

/-- A run that gives a server under a new name. -/
def addingBesideBroken : Setting where
  program := "siemtop"
  arguments := ["--profile", "new", "--dry-run", "http://new:2"]
  input := ""
  logFilter := none
  file := some (Value.object brokenRecord).pretty

/-- The well-formed server of the file is not in it any more after the run. -/
theorem not_keeps_brokenNeighbour :
    addingBesideBroken.Names "new" ∧ "lab" ≠ "new" ∧
      FileGives addingBesideBroken.file "lab" ⟨"http://lab:1", some "root"⟩ ∧
      ¬ FileGives (run addingBesideBroken).file "lab" ⟨"http://lab:1", some "root"⟩ := by
  have named : addingBesideBroken.Names "new" := by
    intro arguments parsed
    obtain rfl := Except.ok.inj parsed
    decide
  have isRecord : readRecord? (Value.object brokenRecord).pretty = some (.object brokenRecord) :=
    readRecord?_pretty (by simp [brokenRecord, Value.Exact, Value.MembersExact, Value.ofNat,
      Number.Whole])
  have gives : Profiles.Gives (Value.object brokenRecord).pretty "lab"
      ⟨"http://lab:1", some "root"⟩ :=
    ⟨_, _, _, isRecord, rfl, rfl, .record rfl (.text "root")⟩
  have unread : Profiles.ofText? (Value.object brokenRecord).pretty = none := by
    rw [Profiles.ofText?, isRecord]
    rfl
  have looks : addingBesideBroken.LooksUp := ⟨_, rfl, by decide⟩
  exact ⟨named, by decide, ⟨_, rfl, gives⟩,
    not_fileGives_of_unread named looks rfl unread (by decide)⟩

end EventConsole.CommandLine
