import EventConsole.Proofs.CommandLine.Saving

/-!
Contract: which server a run goes on with, and for which user.

A given user goes with a given URL, and replaces the user of the profile that is
named. A profile that is chosen from the menu keeps its own user, and a new profile
has the user that is typed for it, or none.

Owns: where the server of a run comes from, and its user when one is given.
-/

namespace EventConsole.CommandLine

/-! ### Servers -/

/-- How a run that asks for no demo comes to its server, by its arguments, the
profiles of its file and what is typed. -/
inductive Serves (arguments : Arguments) (profiles : Profiles) (input : List Char) :
    ProfileEntry → Prop where
  | given {url : String} (given : arguments.url = some url) :
      Serves arguments profiles input ⟨url, arguments.user⟩
  /-- The named profile, for the given user if there is one. -/
  | loaded {name : String} {stored : ProfileEntry} (named : arguments.profile = some name)
      (noUrl : arguments.url = none) (present : profiles.get? name = some stored) :
      Serves arguments profiles input ⟨stored.url, arguments.user <|> stored.user⟩
  /-- A new profile. -/
  | typed {name : String} (named : arguments.profile = some name) (noUrl : arguments.url = none)
      (absent : profiles.get? name = none) (typed : ¬ LeftBlank (firstLine input)) :
      Serves arguments profiles input (typedEntry input)
  /-- A profile that is chosen from the menu by its number. -/
  | chosen {name : String} {stored : ProfileEntry} (unnamed : arguments.profile = none)
      (noUrl : arguments.url = none)
      (isChosen : chosen? (selectable profiles.names) (firstLine input) = some name)
      (noDemo : name ≠ demoName) (present : profiles.get? name = some stored) :
      Serves arguments profiles input stored

section Dialogues

variable {arguments : Arguments} {profiles : Profiles} {input : List Char} {name : String}
variable {entry : ProfileEntry}

private theorem target_saveDirect (overwrite : Bool) :
    ((saveDirect profiles name entry overwrite).outcome input).2 = .server entry := by
  cases present : profiles.get? name with
  | none => rw [outcome_saveDirect_of_absent present]
  | some old =>
      by_cases same : old = entry
      · rw [same] at present
        rw [outcome_saveDirect_of_same present]
      by_cases agreed : overwrite = true ∨ SaysYes (firstLine input)
      · rw [outcome_saveDirect_of_agreed present same agreed]
      · rw [outcome_saveDirect_of_declined present same agreed]

theorem target_select_eq_server_iff {names : List String} :
    ((select profiles names).outcome input).2 = .server entry ↔
      ∃ name, chosen? (selectable names) (firstLine input) = some name ∧ name ≠ demoName ∧
        profiles.get? name = some entry := by
  rw [select, outcome_say, outcome_ask]
  cases chosen? (selectable names) (firstLine input) with
  | none => simp [outcome_finish]
  | some name =>
      by_cases isDemo : name = demoName
      · simp [isDemo, outcome_finish]
      · cases present : profiles.get? name <;> simp [isDemo, present, outcome_finish]

theorem target_create_eq_server_iff :
    ((create profiles name).outcome input).2 = .server entry ↔
      ¬ LeftBlank (firstLine input) ∧ typedEntry input = entry := by
  by_cases blank : LeftBlank (firstLine input)
  · rw [create, outcome_say, outcome_ask, if_pos (isEmpty_trimmed_iff.mpr blank)]
    simp [outcome_finish, blank]
  · simp [outcome_create blank, blank]

private theorem isEmpty_eq_false_of_get? (present : profiles.get? name = some entry) :
    profiles.entries.isEmpty = false := by
  have member := SortedMap.get?_eq_some_iff.mp present
  rw [SortedMap.isEmpty, List.isEmpty_eq_false_iff]
  exact List.ne_nil_of_mem member

private theorem target_of_url (noDemo : isDemo arguments = false) {url : String}
    (given : arguments.url = some url) :
    ((dialogue arguments profiles).outcome input).2 = .server ⟨url, arguments.user⟩ := by
  cases named : arguments.profile with
  | none =>
      rw [dialogue_of_unnamedUrl noDemo named given]
      rfl
  | some name =>
      rw [dialogue_of_namedUrl noDemo named given]
      exact target_saveDirect arguments.save

private theorem target_of_present (noDemo : isDemo arguments = false) {stored : ProfileEntry}
    (named : arguments.profile = some name) (noUrl : arguments.url = none)
    (present : profiles.get? name = some stored) :
    ((dialogue arguments profiles).outcome input).2 =
      .server ⟨stored.url, arguments.user <|> stored.user⟩ := by
  rw [dialogue_of_present noDemo named noUrl present]
  rfl

private theorem serves_of_target (noDemo : isDemo arguments = false)
    (target : ((dialogue arguments profiles).outcome input).2 = .server entry) :
    Serves arguments profiles input entry := by
  cases given : arguments.url with
  | some url =>
      rw [target_of_url noDemo given] at target
      obtain rfl := Target.server.inj target
      exact .given given
  | none =>
      cases named : arguments.profile with
      | some name =>
          cases present : profiles.get? name with
          | some stored =>
              rw [target_of_present noDemo named given present] at target
              obtain rfl := Target.server.inj target
              exact .loaded named given present
          | none =>
              rw [dialogue_of_absent noDemo named given present,
                target_create_eq_server_iff] at target
              obtain ⟨typed, rfl⟩ := target
              exact .typed named given present typed
      | none =>
          cases filled : profiles.entries.isEmpty with
          | true =>
              rw [dialogue_of_nothing noDemo named given filled] at target
              contradiction
          | false =>
              rw [dialogue_of_menu noDemo named given filled, target_select_eq_server_iff] at target
              obtain ⟨name, isChosen, notDemo, present⟩ := target
              exact .chosen named given isChosen notDemo present

theorem Serves.target (serves : Serves arguments profiles input entry)
    (noDemo : isDemo arguments = false) :
    ((dialogue arguments profiles).outcome input).2 = .server entry := by
  cases serves with
  | given given => exact target_of_url noDemo given
  | loaded named noUrl present => exact target_of_present noDemo named noUrl present
  | typed named noUrl absent typed =>
      rw [dialogue_of_absent noDemo named noUrl absent, target_create_eq_server_iff]
      exact ⟨typed, rfl⟩
  | chosen unnamed noUrl isChosen notDemo present =>
      rw [dialogue_of_menu noDemo unnamed noUrl (isEmpty_eq_false_of_get? present),
        target_select_eq_server_iff]
      exact ⟨_, isChosen, notDemo, present⟩

end Dialogues

/-! ### Runs -/

/-- Whether a run goes on with a server. -/
structure Setting.GoesOnWith (setting : Setting) (arguments : Arguments) (entry : ProfileEntry) :
    Prop where
  parsed : parse setting.arguments = .ok arguments
  server : (setting.outcome arguments).2 = .server entry

/-- Whether the arguments leave the choice of a server to the menu. -/
def Arguments.NameNothing (arguments : Arguments) : Prop :=
  arguments.profile = .none ∧ arguments.url = .none

/-- Whether the arguments name a profile that is still to be made. -/
def Arguments.NameNew (arguments : Arguments) (profiles : Profiles) : Prop :=
  arguments.url = .none ∧ ∃ name, arguments.profile = some name ∧ profiles.get? name = .none

/-- The user of the server that a run goes on with, when a user is given. -/
structure Setting.TakesUser (setting : Setting) (arguments : Arguments) (user : String)
    (entry : ProfileEntry) : Prop where
  given : ¬ arguments.NameNothing → ¬ arguments.NameNew setting.profiles → entry.user = some user
  /-- A profile from the menu keeps its own user. -/
  chosen : arguments.NameNothing → ∃ name,
    chosen? (selectable setting.profiles.names) (firstLine setting.input.toList) = some name ∧
      setting.profiles.get? name = some entry
  typed : arguments.NameNew setting.profiles → ¬ LeftBlank (secondLine setting.input.toList) →
    entry.user = some (trimmed (secondLine setting.input.toList))
  /-- A new profile for which no user is typed has none. -/
  leftBlank : arguments.NameNew setting.profiles → LeftBlank (secondLine setting.input.toList) →
    entry.user = none
  /-- What the run saves is the server that it goes on with. -/
  saved : ∀ profiles ∈ setting.saves, ∃ name, profiles = setting.profiles.insert name entry
  /-- The console is opened for that user. -/
  opened : ∀ opening, (run setting).console = some opening → opening.username = entry.user

section Users

variable {arguments : Arguments} {profiles : Profiles} {input : List Char} {entry : ProfileEntry}

private theorem Serves.user_of_given (serves : Serves arguments profiles input entry)
    {user : String} (isGiven : arguments.user = some user) (namesSome : ¬ arguments.NameNothing)
    (namesOld : ¬ arguments.NameNew profiles) : entry.user = some user := by
  cases serves with
  | given => exact isGiven
  | loaded => simp [isGiven]
  | typed named noUrl absent => exact absurd ⟨noUrl, _, named, absent⟩ namesOld
  | chosen unnamed noUrl => exact absurd ⟨unnamed, noUrl⟩ namesSome

private theorem Serves.exists_chosen (serves : Serves arguments profiles input entry)
    (namesNothing : arguments.NameNothing) :
    ∃ name, chosen? (selectable profiles.names) (firstLine input) = some name ∧
      profiles.get? name = some entry := by
  obtain ⟨unnamed, noUrl⟩ := namesNothing
  cases serves with
  | given given => simp [given] at noUrl
  | loaded named | typed named => simp [named] at unnamed
  | chosen _ _ isChosen _ present => exact ⟨_, isChosen, present⟩

private theorem Serves.eq_typedEntry (serves : Serves arguments profiles input entry)
    (namesNew : arguments.NameNew profiles) : entry = typedEntry input := by
  obtain ⟨noUrl, name, named, absent⟩ := namesNew
  cases serves with
  | given given => simp [given] at noUrl
  | loaded isName _ present =>
      obtain rfl := Option.some.inj (isName.symm.trans named)
      simp [present] at absent
  | typed => rfl
  | chosen unnamed => simp [unnamed] at named

private theorem user_typedEntry_of_blank (blank : LeftBlank (secondLine input)) :
    (typedEntry input).user = none := by
  rw [typedEntry, nonEmpty, if_pos (isEmpty_trimmed_iff.mpr blank)]

private theorem user_typedEntry_of_typed (typed : ¬ LeftBlank (secondLine input)) :
    (typedEntry input).user = some (trimmed (secondLine input)) := by
  rw [typedEntry, nonEmpty, if_neg fun empty => typed (isEmpty_trimmed_iff.mp empty)]

end Users

section Runs

variable {setting : Setting} {arguments : Arguments} {entry : ProfileEntry}

theorem Setting.GoesOnWith.noDemo (goesOn : setting.GoesOnWith arguments entry) :
    isDemo arguments = false := by
  by_contra notFalse
  have server := goesOn.server
  rw [Setting.outcome, dialogue_of_demo (by simpa using notFalse), outcome_finish] at server
  contradiction

theorem goesOnWith_iff :
    setting.GoesOnWith arguments entry ↔ parse setting.arguments = .ok arguments ∧
      isDemo arguments = false ∧ Serves arguments setting.profiles setting.input.toList entry := by
  constructor
  · intro goesOn
    exact ⟨goesOn.parsed, goesOn.noDemo, serves_of_target goesOn.noDemo goesOn.server⟩
  · rintro ⟨parsed, noDemo, serves⟩
    exact ⟨parsed, serves.target noDemo⟩

theorem Setting.GoesOnWith.serves (goesOn : setting.GoesOnWith arguments entry) :
    Serves arguments setting.profiles setting.input.toList entry :=
  (goesOnWith_iff.mp goesOn).2.2

/-- A run goes on with the server that it saves. -/
theorem goesOnWith_of_maySave {name : String} (may : setting.MaySave arguments name entry) :
    setting.GoesOnWith arguments entry where
  parsed := may.parsed
  server := congrArg Prod.snd (outcome_of_permitted may.noDemo may.permitted)

theorem Setting.GoesOnWith.unique {others : Arguments} {other : ProfileEntry}
    (goesOn : setting.GoesOnWith arguments entry) (again : setting.GoesOnWith others other) :
    entry = other := by
  obtain rfl := Except.ok.inj (goesOn.parsed.symm.trans again.parsed)
  exact Target.server.inj (goesOn.server.symm.trans again.server)

theorem Setting.GoesOnWith.report (goesOn : setting.GoesOnWith arguments entry) :
    ∃ said file, run setting =
      setting.report said file (conclude (.server entry) arguments.dryRun) := by
  obtain ⟨said, isReport⟩ := run_of_parse goesOn.parsed
  rw [goesOn.server] at isReport
  exact ⟨said, _, isReport⟩

private theorem saves_of_goesOnWith (goesOn : setting.GoesOnWith arguments entry) :
    ∀ profiles ∈ setting.saves, ∃ name, profiles = setting.profiles.insert name entry := by
  intro profiles isSaved
  rcases keeps_or_maySave setting with keeps | ⟨others, name, saved, may⟩
  · rw [saves_of_keeps keeps] at isSaved
    contradiction
  · rw [(saved_of_maySave may).once, List.mem_singleton] at isSaved
    rw [goesOn.unique (goesOnWith_of_maySave may)]
    exact ⟨name, isSaved⟩

private theorem username_connect {url : String} {username : Option String} {needsDemo dryRun : Bool}
    {opening : Opening} (opens : (connect url username needsDemo dryRun).console = some opening) :
    opening.username = username := by
  unfold connect at opens
  split at opens
  · contradiction
  · cases dryRun with
    | true => contradiction
    | false =>
        obtain rfl := Option.some.inj opens
        rfl

end Runs

/-- A given user is taken unless the server comes from the menu or is typed. -/
theorem takesUser_of_goesOnWith {setting : Setting} {arguments : Arguments} {user : String}
    {entry : ProfileEntry} (isGiven : arguments.user = some user)
    (goesOn : setting.GoesOnWith arguments entry) : setting.TakesUser arguments user entry where
  given := goesOn.serves.user_of_given isGiven
  chosen := goesOn.serves.exists_chosen
  typed := by
    intro namesNew typed
    rw [goesOn.serves.eq_typedEntry namesNew]
    exact user_typedEntry_of_typed typed
  leftBlank := by
    intro namesNew blank
    rw [goesOn.serves.eq_typedEntry namesNew]
    exact user_typedEntry_of_blank blank
  saved := saves_of_goesOnWith goesOn
  opened := by
    intro opening opens
    obtain ⟨said, file, isReport⟩ := goesOn.report
    rw [isReport] at opens
    exact username_connect opens

/-- A profile of the file, for a user. -/
def lab : ProfileEntry := ⟨"http://lab:1", some "root"⟩

/-- A run that is given a user and has to choose its profile. -/
def choosing : Setting where
  program := "siemtop"
  arguments := ["--user", "guest", "--dry-run"]
  input := "1\n"
  logFilter := none
  file := some (Profiles.empty.insert "lab" lab).fileText

/-- A run that is given a user and makes a new profile, of which the user is left
blank. -/
def making : Setting where
  program := "siemtop"
  arguments := ["--profile", "new", "--user", "guest", "--dry-run"]
  input := "http://new:2\n\n"
  logFilter := none
  file := none

/-- The given user is taken in neither of the runs. -/
theorem takesUser_choosing_making :
    let chosen : Arguments := { Arguments.none with user := some "guest", dryRun := true }
    let made : Arguments := { chosen with profile := some "new" }
    choosing.GoesOnWith chosen lab ∧ choosing.TakesUser chosen "guest" lab ∧
      lab.user = some "root" ∧
      making.GoesOnWith made ⟨"http://new:2", none⟩ ∧
      making.TakesUser made "guest" ⟨"http://new:2", none⟩ := by
  intro chosen made
  have isChoice : choosing.GoesOnWith chosen lab := by
    have profiles : choosing.profiles = Profiles.empty.insert "lab" lab :=
      Profiles.load_fileText _
    refine goesOnWith_iff.mpr ⟨rfl, rfl, ?_⟩
    rw [profiles]
    exact .chosen rfl rfl (by decide) (by decide) (Profiles.get?_insert_self _ _ _)
  have isMade : making.GoesOnWith made ⟨"http://new:2", none⟩ := by
    have serves : Serves made making.profiles making.input.toList
        (typedEntry making.input.toList) := by
      refine .typed rfl rfl rfl fun blank => ?_
      exact absurd (isEmpty_trimmed_iff.mpr blank) (by decide)
    have typed : typedEntry making.input.toList = ⟨"http://new:2", none⟩ := by decide
    rw [typed] at serves
    exact goesOnWith_iff.mpr ⟨rfl, rfl, serves⟩
  exact ⟨isChoice, takesUser_of_goesOnWith rfl isChoice, rfl, isMade,
    takesUser_of_goesOnWith rfl isMade⟩

end EventConsole.CommandLine
