import EventConsole.Proofs.CommandLine.Server

/-!
Contract: the profiles file after a run that ends because the URL of its server
cannot be read.

What a run saves, it saves before it looks at the URL. A run that fails leaves its
file as it was when it has nothing to save; otherwise the file holds the server
that could not be used, and is as before in everything else.

Owns: when any run leaves its file as it was, and runs that end on a URL.
-/

namespace EventConsole.CommandLine

/-- Whether a run ends with the error for a server whose URL cannot be read. -/
def Setting.EndsOnUrl (setting : Setting) : Prop :=
  ∃ said file fault, run setting =
    setting.report said file (Ending.failure (.invalidUrl fault) fault.message)

/-! ### Files that change -/

/-- What a run may save is not in its profiles already. -/
theorem Permitted.isNew {arguments : Arguments} {profiles : Profiles} {input : List Char}
    {name : String} {entry : ProfileEntry}
    (permitted : Permitted arguments profiles input name entry) :
    profiles.get? name ≠ some entry := by
  cases permitted with
  | added _ _ absent | typed _ _ absent _ =>
      rw [absent]
      exact nofun
  | replaced _ _ present different _ =>
      rw [present]
      exact fun same => different (Option.some.inj same)

section Runs

variable {setting : Setting} {arguments : Arguments} {name : String} {entry : ProfileEntry}

/-- A run that saves does not write the text that is there already. -/
theorem file_ne_of_maySave (may : setting.MaySave arguments name entry) :
    (run setting).file ≠ setting.file := by
  intro same
  have isFile : setting.file = some (setting.profiles.insert name entry).fileText :=
    same.symm.trans (file_of_maySave may)
  have isProfiles : setting.profiles = setting.profiles.insert name entry := by
    conv_lhs => rw [Setting.profiles, isFile, Profiles.load_fileText]
  apply may.permitted.isNew
  rw [isProfiles]
  exact setting.profiles.get?_insert_self name entry

private theorem not_maySave_of_keeps (keeps : setting.Keeps) :
    ∀ arguments name entry, ¬ setting.MaySave arguments name entry := by
  intro arguments name entry may
  have once := (saved_of_maySave may).once
  rw [saves_of_keeps keeps] at once
  contradiction

/-- A run leaves its file as it was exactly when it has nothing to save. -/
theorem file_eq_iff (setting : Setting) :
    (run setting).file = setting.file ↔
      ∀ arguments name entry, ¬ setting.MaySave arguments name entry := by
  constructor
  · intro same arguments name entry may
    exact file_ne_of_maySave may same
  · intro nothing
    rcases keeps_or_maySave setting with keeps | ⟨arguments, name, entry, may⟩
    · exact file_of_keeps keeps
    · exact absurd may (nothing arguments name entry)

end Runs

/-! ### Runs that end on a URL -/

/-- A URL that cannot be read is the only reason to have no client. -/
theorem exists_fault_of_error {url : String} {failure : Failure}
    (fails : Client.new url = .error failure) : ∃ fault, failure = .invalidUrl fault := by
  unfold Client.new at fails
  split at fails
  · contradiction
  · exact ⟨_, (Except.error.inj fails).symm⟩

private theorem connect_of_error {url : String} {failure : Failure}
    (fails : Client.new url = .error failure) (username : Option String) (needsDemo dryRun : Bool) :
    connect url username needsDemo dryRun = Ending.failure failure (causeText failure) := by
  rw [connect, fails]

theorem code_connect_eq_one_iff {url : String} {username : Option String}
    {needsDemo dryRun : Bool} :
    (connect url username needsDemo dryRun).code = 1 ↔
      ∃ fault, Client.new url = .error (.invalidUrl fault) := by
  cases found : Client.new url with
  | ok client =>
      rw [connect, found]
      cases dryRun <;> simp
  | error failure =>
      obtain ⟨fault, rfl⟩ := exists_fault_of_error found
      rw [connect_of_error found]
      exact iff_of_true rfl ⟨fault, rfl⟩

private theorem new_demoUrl : Client.new demoUrl = .ok ⟨"http://127.0.0.1:3232/api"⟩ := by decide

/-- A run ends on a URL exactly when it goes on with a server whose URL cannot be
read; that of the demo server can. -/
theorem endsOnUrl_iff {setting : Setting} :
    setting.EndsOnUrl ↔ ∃ arguments entry fault, setting.GoesOnWith arguments entry ∧
      Client.new entry.url = .error (.invalidUrl fault) := by
  constructor
  · rintro ⟨_, _, _, isFailure⟩
    have code : (run setting).code = 1 := congrArg Report.code isFailure
    cases parsed : parse setting.arguments with
    | error refusal =>
        rw [run, parsed] at code
        contradiction
    | ok arguments =>
        obtain ⟨_, isReport⟩ := run_of_parse parsed
        rw [isReport] at code
        change (conclude (setting.outcome arguments).2 arguments.dryRun).code = 1 at code
        cases target : (setting.outcome arguments).2 with
        | nothing =>
            rw [target] at code
            contradiction
        | demo =>
            rw [target, conclude, code_connect_eq_one_iff, new_demoUrl] at code
            obtain ⟨_, fails⟩ := code
            contradiction
        | server entry =>
            rw [target, conclude, code_connect_eq_one_iff] at code
            obtain ⟨fault, fails⟩ := code
            exact ⟨arguments, entry, fault, ⟨parsed, target⟩, fails⟩
  · rintro ⟨arguments, entry, fault, goesOn, fails⟩
    obtain ⟨said, file, isReport⟩ := goesOn.report
    rw [conclude, connect_of_error fails] at isReport
    exact ⟨said, file, fault, isReport⟩

/-- A run that ends on a URL leaves its file as it was when it has nothing to save.
Otherwise the file holds the server that could not be used, and is as before in
everything else. -/
theorem file_of_endsOnUrl {setting : Setting} (ends : setting.EndsOnUrl) :
    ((run setting).file = setting.file ↔
        ∀ arguments name entry, ¬ setting.MaySave arguments name entry) ∧
      ∀ arguments name entry, setting.MaySave arguments name entry →
        (∃ fault, Client.new entry.url = .error (.invalidUrl fault)) ∧
          ∃ text after, (run setting).file = some text ∧ Profiles.ofText? text = some after ∧
            setting.profiles.Puts name entry after := by
  refine ⟨file_eq_iff setting, fun arguments name entry may => ⟨?_, ?_⟩⟩
  · obtain ⟨_, used, fault, goesOn, fails⟩ := endsOnUrl_iff.mp ends
    rw [← goesOn.unique (goesOnWith_of_maySave may)]
    exact ⟨fault, fails⟩
  · exact (saved_of_maySave may).held

/-- A run that is given a text that is no URL for a profile of its file, and does not
agree to overwrite it. -/
def decliningNoUrl : Setting where
  program := "siemtop"
  arguments := ["--profile", "lab", "no server"]
  input := "no\n"
  logFilter := none
  file := some (Profiles.empty.insert "lab" lab).fileText

theorem file_decliningNoUrl :
    decliningNoUrl.EndsOnUrl ∧
      (∀ arguments name entry, ¬ decliningNoUrl.MaySave arguments name entry) ∧
      (run decliningNoUrl).file = decliningNoUrl.file := by
  have ends : decliningNoUrl.EndsOnUrl :=
    endsOnUrl_iff.mpr ⟨_, ⟨"no server", none⟩, .noBase, goesOnWith_iff.mpr ⟨rfl, rfl, .given rfl⟩,
      by decide⟩
  have present : decliningNoUrl.profiles.get? "lab" = some lab := by
    rw [Setting.profiles, decliningNoUrl, Profiles.load_fileText]
    exact Profiles.get?_insert_self _ _ _
  have declined : ¬ (false = true ∨ SaysYes (firstLine decliningNoUrl.input.toList)) := by
    rw [← isYes_iff]
    decide
  have keeps : decliningNoUrl.Keeps :=
    .idle rfl (.declined rfl rfl present (by decide) declined)
  have nothing := not_maySave_of_keeps keeps
  exact ⟨ends, nothing, (file_of_endsOnUrl ends).1.mpr nothing⟩

/-- A run that is given a text that is no URL for a new profile. -/
def addingNoUrl : Setting where
  program := "siemtop"
  arguments := ["--profile", "new", "--dry-run", "not a url"]
  input := ""
  logFilter := none
  file := some (Profiles.empty.insert "lab" lab).fileText

/-- The run fails, and its file has changed. -/
theorem not_kept_addingNoUrl :
    addingNoUrl.EndsOnUrl ∧ (run addingNoUrl).file ≠ addingNoUrl.file := by
  have absent : addingNoUrl.profiles.get? "new" = none := by
    rw [Setting.profiles, addingNoUrl, Profiles.load_fileText]
    decide
  have ends : addingNoUrl.EndsOnUrl :=
    endsOnUrl_iff.mpr ⟨_, ⟨"not a url", none⟩, .noBase, goesOnWith_iff.mpr ⟨rfl, rfl, .given rfl⟩,
      by decide⟩
  exact ⟨ends, file_ne_of_maySave ⟨rfl, rfl, .added rfl rfl absent⟩⟩

end EventConsole.CommandLine
