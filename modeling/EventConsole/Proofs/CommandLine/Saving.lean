import EventConsole.Proofs.CommandLine.Dialogue
import EventConsole.Proofs.Profiles

/-!
Contract: a run writes the profiles file only for a profile that it was told to
save, and then changes nothing else in it.

A profile is saved under the name that the arguments give: with a given URL when
the name is new, or when its entry differs and the run is told or agrees to
overwrite it, and with a URL that was typed when there is neither profile nor URL.
A run that saves connects to the server it saved.

Owns: what may be saved, runs that save nothing, and the file after a run.
-/

namespace EventConsole.CommandLine

/-! ### Dialogues -/

section Dialogues

variable {profiles : Profiles} {name : String} {entry old : ProfileEntry} {overwrite : Bool}
variable {input : List Char}

theorem outcome_saved (name : String) (entry : ProfileEntry) :
    (Dialogue.save (profiles.insert name entry) (.finish (Target.server entry))).outcome input =
      ([profiles.insert name entry], .server entry) := by
  rw [outcome_save, outcome_finish]

theorem outcome_saveDirect_of_absent (absent : profiles.get? name = none) :
    (saveDirect profiles name entry overwrite).outcome input =
      ([profiles.insert name entry], .server entry) := by
  simp only [saveDirect, absent]
  exact outcome_saved name entry

theorem outcome_saveDirect_of_same (present : profiles.get? name = some entry) :
    (saveDirect profiles name entry overwrite).outcome input = ([], .server entry) := by
  simp only [saveDirect, present, if_true]
  exact outcome_finish input _

theorem outcome_saveDirect_of_agreed (present : profiles.get? name = some old)
    (different : old ≠ entry) (agreed : overwrite = true ∨ SaysYes (firstLine input)) :
    (saveDirect profiles name entry overwrite).outcome input =
      ([profiles.insert name entry], .server entry) := by
  simp only [saveDirect, present, if_neg different]
  by_cases told : overwrite = true
  · rw [if_pos told]
    exact outcome_saved name entry
  · have yes : isYes (firstLine input) = true := isYes_iff.mpr (agreed.resolve_left told)
    rw [if_neg told, outcome_ask, if_pos yes]
    exact outcome_saved name entry

theorem outcome_saveDirect_of_declined (present : profiles.get? name = some old)
    (different : old ≠ entry) (declined : ¬ (overwrite = true ∨ SaysYes (firstLine input))) :
    (saveDirect profiles name entry overwrite).outcome input = ([], .server entry) := by
  obtain ⟨notTold, saysNo⟩ := not_or.mp declined
  have no : ¬ isYes (firstLine input) = true := fun yes => saysNo (isYes_iff.mp yes)
  simp only [saveDirect, present, if_neg different, if_neg notTold]
  rw [outcome_ask, if_neg no, outcome_finish]

/-- A selection only reads. -/
theorem saves_select (names : List String) :
    ((select profiles names).outcome input).1 = [] := by
  rw [select, outcome_say, outcome_ask]
  cases chosen? (selectable names) (firstLine input) with
  | none => rfl
  | some name =>
      by_cases isDemo : name = demoName
      · simp only [if_pos isDemo]
        rfl
      · simp only [if_neg isDemo]
        cases profiles.get? name with
        | none => rfl
        | some entry => rfl

/-- The entry of two lines that are typed for a new profile. -/
def typedEntry (input : List Char) : ProfileEntry :=
  ⟨trimmed (firstLine input), nonEmpty (trimmed (secondLine input))⟩

private theorem saves_create_of_blank (blank : LeftBlank (firstLine input)) :
    ((create profiles name).outcome input).1 = [] := by
  have empty := isEmpty_trimmed_iff.mpr blank
  rw [create, outcome_say, outcome_ask, if_pos empty, outcome_finish]

theorem outcome_create (typed : ¬ LeftBlank (firstLine input)) :
    (create profiles name).outcome input =
      ([profiles.insert name (typedEntry input)], .server (typedEntry input)) := by
  have filled : ¬ (trimmed (firstLine input)).isEmpty = true :=
    fun empty => typed (isEmpty_trimmed_iff.mp empty)
  rw [create, outcome_say, outcome_ask, if_neg filled, outcome_ask]
  exact outcome_saved name (typedEntry input)

end Dialogues

/-! ### What may be saved -/

/-- How a run may come to save an entry under a name, by its arguments, the
profiles of its file and what is typed. -/
inductive Permitted (arguments : Arguments) (profiles : Profiles) (input : List Char) :
    String → ProfileEntry → Prop where
  /-- A given server under a new name. -/
  | added {name url : String} (named : arguments.profile = some name)
      (given : arguments.url = some url) (absent : profiles.get? name = none) :
      Permitted arguments profiles input name ⟨url, arguments.user⟩
  /-- A given server instead of a different one. -/
  | replaced {name url : String} {old : ProfileEntry} (named : arguments.profile = some name)
      (given : arguments.url = some url) (present : profiles.get? name = some old)
      (different : old ≠ ⟨url, arguments.user⟩)
      (agreed : arguments.save = true ∨ SaysYes (firstLine input)) :
      Permitted arguments profiles input name ⟨url, arguments.user⟩
  /-- A server that is typed, under a new name. -/
  | typed {name : String} (named : arguments.profile = some name) (noUrl : arguments.url = none)
      (absent : profiles.get? name = none) (typed : ¬ LeftBlank (firstLine input)) :
      Permitted arguments profiles input name (typedEntry input)

/-- The runs that save nothing, when their arguments can be read. -/
inductive Idle (arguments : Arguments) (profiles : Profiles) (input : List Char) : Prop where
  | demo (isDemo : isDemo arguments = true)
  /-- A selection, a server without a name for it, or nothing to do. -/
  | unnamed (unnamed : arguments.profile = none)
  | loaded {name : String} {old : ProfileEntry} (named : arguments.profile = some name)
      (noUrl : arguments.url = none) (present : profiles.get? name = some old)
  | same {name url : String} (named : arguments.profile = some name)
      (given : arguments.url = some url)
      (present : profiles.get? name = some ⟨url, arguments.user⟩)
  | declined {name url : String} {old : ProfileEntry} (named : arguments.profile = some name)
      (given : arguments.url = some url) (present : profiles.get? name = some old)
      (different : old ≠ ⟨url, arguments.user⟩)
      (declined : ¬ (arguments.save = true ∨ SaysYes (firstLine input)))
  | leftBlank {name : String} (named : arguments.profile = some name)
      (noUrl : arguments.url = none) (absent : profiles.get? name = none)
      (blank : LeftBlank (firstLine input))

section Permission

variable {arguments : Arguments} {profiles : Profiles} {input : List Char}

theorem outcome_of_permitted {name : String} {entry : ProfileEntry}
    (noDemo : isDemo arguments = false)
    (permitted : Permitted arguments profiles input name entry) :
    (dialogue arguments profiles).outcome input =
      ([profiles.insert name entry], .server entry) := by
  cases permitted with
  | added named given absent =>
      rw [dialogue_of_namedUrl noDemo named given]
      exact outcome_saveDirect_of_absent absent
  | replaced named given present different agreed =>
      rw [dialogue_of_namedUrl noDemo named given]
      exact outcome_saveDirect_of_agreed present different agreed
  | typed named noUrl absent typed =>
      rw [dialogue_of_absent noDemo named noUrl absent]
      exact outcome_create typed

private theorem saves_of_unnamed (noDemo : isDemo arguments = false)
    (unnamed : arguments.profile = none) :
    ((dialogue arguments profiles).outcome input).1 = [] := by
  cases given : arguments.url with
  | some url =>
      rw [dialogue_of_unnamedUrl noDemo unnamed given]
      rfl
  | none =>
      cases filled : profiles.entries.isEmpty with
      | true =>
          rw [dialogue_of_nothing noDemo unnamed given filled]
          rfl
      | false =>
          rw [dialogue_of_menu noDemo unnamed given filled]
          exact saves_select profiles.names

private theorem saves_of_idle (idle : Idle arguments profiles input) :
    ((dialogue arguments profiles).outcome input).1 = [] := by
  by_cases isDemo : isDemo arguments = true
  · rw [dialogue_of_demo isDemo]
    rfl
  have noDemo : CommandLine.isDemo arguments = false := by simpa using isDemo
  cases idle with
  | demo demo => exact absurd demo isDemo
  | unnamed unnamed => exact saves_of_unnamed noDemo unnamed
  | loaded named noUrl present =>
      rw [dialogue_of_present noDemo named noUrl present]
      rfl
  | same named given present =>
      rw [dialogue_of_namedUrl noDemo named given]
      exact congrArg Prod.fst (outcome_saveDirect_of_same present)
  | declined named given present different declined =>
      rw [dialogue_of_namedUrl noDemo named given]
      exact congrArg Prod.fst (outcome_saveDirect_of_declined present different declined)
  | leftBlank named noUrl absent blank =>
      rw [dialogue_of_absent noDemo named noUrl absent]
      exact saves_create_of_blank blank

/-- There is no third kind of run. -/
theorem idle_or_permitted (arguments : Arguments) (profiles : Profiles) (input : List Char) :
    Idle arguments profiles input ∨
      isDemo arguments = false ∧
        ∃ name entry, Permitted arguments profiles input name entry := by
  by_cases isDemo : isDemo arguments = true
  · exact .inl (.demo isDemo)
  have noDemo : CommandLine.isDemo arguments = false := by simpa using isDemo
  cases named : arguments.profile with
  | none => exact .inl (.unnamed named)
  | some name =>
      cases given : arguments.url with
      | none =>
          cases present : profiles.get? name with
          | some old => exact .inl (.loaded named given present)
          | none =>
              by_cases blank : LeftBlank (firstLine input)
              · exact .inl (.leftBlank named given present blank)
              · exact .inr ⟨noDemo, name, _, .typed named given present blank⟩
      | some url =>
          cases present : profiles.get? name with
          | none => exact .inr ⟨noDemo, name, _, .added named given present⟩
          | some old =>
              by_cases same : old = ⟨url, arguments.user⟩
              · rw [same] at present
                exact .inl (.same named given present)
              by_cases agreed : arguments.save = true ∨ SaysYes (firstLine input)
              · exact .inr ⟨noDemo, name, _, .replaced named given present same agreed⟩
              · exact .inl (.declined named given present same agreed)

end Permission

/-! ### Runs -/

/-- Whether a run may save an entry under a name. -/
structure Setting.MaySave (setting : Setting) (arguments : Arguments) (name : String)
    (entry : ProfileEntry) : Prop where
  parsed : parse setting.arguments = .ok arguments
  noDemo : isDemo arguments = false
  permitted : Permitted arguments setting.profiles setting.input.toList name entry

/-- Whether a run has nothing to save: it only shows how to use the command, or it
is idle. -/
inductive Setting.Keeps (setting : Setting) : Prop where
  | refused {refusal : Refusal} (refused : parse setting.arguments = .error refusal)
  | idle {arguments : Arguments} (parsed : parse setting.arguments = .ok arguments)
      (idle : Idle arguments setting.profiles setting.input.toList)

/-- What a run has done that saved an entry under a name. -/
structure Setting.Saved (setting : Setting) (arguments : Arguments) (name : String)
    (entry : ProfileEntry) : Prop where
  once : setting.saves = [setting.profiles.insert name entry]
  /-- The file reads as the profiles from before with the entry under the name. -/
  held : ∃ text after, (run setting).file = some text ∧ Profiles.ofText? text = some after ∧
    setting.profiles.Puts name entry after
  /-- The run connects to the server that it saved. -/
  used : ∃ said file,
    run setting = setting.report said file (conclude (.server entry) arguments.dryRun)

/-- A run saves what it may save and nothing else. -/
structure Setting.SavesWhatItMay (setting : Setting) : Prop where
  changes : (run setting).file ≠ setting.file → setting.saves ≠ []
  allowed : setting.saves ≠ [] → ∃ arguments name entry, setting.MaySave arguments name entry
  keeps : setting.Keeps → setting.saves = []
  saved : ∀ arguments name entry, setting.MaySave arguments name entry →
    setting.Saved arguments name entry

section Runs

variable {setting : Setting} {arguments : Arguments}

private theorem saves_of_parse (parsed : parse setting.arguments = .ok arguments) :
    setting.saves = (setting.outcome arguments).1 := by
  rw [Setting.saves, parsed]

theorem saves_of_keeps (keeps : setting.Keeps) : setting.saves = [] := by
  cases keeps with
  | refused refused => rw [Setting.saves, refused]
  | idle parsed idle =>
      rw [saves_of_parse parsed]
      exact saves_of_idle idle

theorem keeps_or_maySave (setting : Setting) :
    setting.Keeps ∨ ∃ arguments name entry, setting.MaySave arguments name entry := by
  cases parsed : parse setting.arguments with
  | error refusal => exact .inl (.refused parsed)
  | ok arguments =>
      rcases idle_or_permitted arguments setting.profiles setting.input.toList with
        idle | ⟨noDemo, name, entry, permitted⟩
      · exact .inl (.idle parsed idle)
      · exact .inr ⟨arguments, name, entry, parsed, noDemo, permitted⟩

theorem saved_of_maySave {name : String} {entry : ProfileEntry}
    (may : setting.MaySave arguments name entry) : setting.Saved arguments name entry := by
  have outcome : setting.outcome arguments =
      ([setting.profiles.insert name entry], .server entry) :=
    outcome_of_permitted may.noDemo may.permitted
  have once : setting.saves = [setting.profiles.insert name entry] := by
    rw [saves_of_parse may.parsed, outcome]
  have file : (run setting).file = some (setting.profiles.insert name entry).fileText := by
    rw [file_run, once]
    rfl
  obtain ⟨said, isReport⟩ := run_of_parse may.parsed
  rw [outcome] at isReport
  exact {
    once := once
    held := ⟨_, _, file, Profiles.ofText?_fileText _, setting.profiles.puts_insert name entry⟩
    used := ⟨said, _, isReport⟩ }

theorem file_of_keeps (keeps : setting.Keeps) : (run setting).file = setting.file := by
  rw [file_run, saves_of_keeps keeps]
  rfl

theorem file_of_maySave {name : String} {entry : ProfileEntry}
    (may : setting.MaySave arguments name entry) :
    (run setting).file = some (setting.profiles.insert name entry).fileText := by
  rw [file_run, (saved_of_maySave may).once]
  rfl

end Runs

theorem savesWhatItMay (setting : Setting) : setting.SavesWhatItMay where
  changes := by
    intro changed unsaved
    apply changed
    rw [file_run, unsaved]
    rfl
  allowed := by
    intro saves
    rcases keeps_or_maySave setting with keeps | may
    · exact absurd (saves_of_keeps keeps) saves
    · exact may
  keeps := saves_of_keeps
  saved := fun _ _ _ may => saved_of_maySave may

end EventConsole.CommandLine
