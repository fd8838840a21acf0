import EventConsole.CommandLine.Run
import EventConsole.Proofs.Text.Blank

/-!
Contract: what a dialogue saves and comes to, apart from what it says.

Only the lines that are typed decide that. Playing the dialogue comes to the same
result, and the profiles file holds what was saved last.

Owns: the outcome of a dialogue, which dialogue a run holds, the lines that are
typed, and a run as the outcome of its dialogue.
-/

namespace EventConsole.CommandLine

/-! ### Outcomes -/

/-- The answer to the first question. -/
def firstLine (input : List Char) : String := String.ofList (splitLine input).1

/-- The answer to the second question. -/
def secondLine (input : List Char) : String := firstLine (splitLine input).2

/-- The profiles that a dialogue saves, first to last, and its result. -/
def Dialogue.outcome {α : Type} : Dialogue α → List Char → List Profiles × α
  | .finish result, _ => ([], result)
  | .say _ next, input => next.outcome input
  | .ask _ next, input => (next (firstLine input)).outcome (splitLine input).2
  | .save profiles next, input =>
      (profiles :: (next.outcome input).1, (next.outcome input).2)

/-- The file after some profiles were saved to it. -/
def fileAfter (file : Option String) (saves : List Profiles) : Option String :=
  saves.foldl (fun _ profiles => some profiles.fileText) file

section Equations

variable {α : Type} (next : Dialogue α) (input : List Char)

theorem outcome_finish (result : α) : (Dialogue.finish result).outcome input = ([], result) := rfl

theorem outcome_say (text : String) :
    (Dialogue.say text next).outcome input = next.outcome input := rfl

theorem outcome_ask (question : String) (next : String → Dialogue α) :
    (Dialogue.ask question next).outcome input =
      (next (firstLine input)).outcome (splitLine input).2 := rfl

theorem outcome_save (profiles : Profiles) :
    (Dialogue.save profiles next).outcome input =
      (profiles :: (next.outcome input).1, (next.outcome input).2) := rfl

end Equations

private theorem Dialogue.play_outcome {α : Type} (dialogue : Dialogue α) (transcript : Transcript) :
    (dialogue.play transcript).1 = (dialogue.outcome transcript.input).2 ∧
      (dialogue.play transcript).2.file =
        fileAfter transcript.file (dialogue.outcome transcript.input).1 := by
  induction dialogue generalizing transcript with
  | finish result => exact ⟨rfl, rfl⟩
  | say text next inductionHypothesis => exact inductionHypothesis _
  | ask question next inductionHypothesis => exact inductionHypothesis _ _
  | save profiles next inductionHypothesis => exact inductionHypothesis _

/-! ### The dialogue of a run -/

section Choice

variable {arguments : Arguments} {profiles : Profiles} {name url : String}

theorem dialogue_of_demo (isDemo : isDemo arguments = true) :
    dialogue arguments profiles = .finish .demo :=
  if_pos isDemo

theorem dialogue_of_namedUrl (noDemo : isDemo arguments = false)
    (named : arguments.profile = some name) (given : arguments.url = some url) :
    dialogue arguments profiles =
      saveDirect profiles name ⟨url, arguments.user⟩ arguments.save := by
  simp only [dialogue, noDemo, ProfileRequest.choose, named, given]
  rfl

theorem dialogue_of_unnamedUrl (noDemo : isDemo arguments = false)
    (unnamed : arguments.profile = none) (given : arguments.url = some url) :
    dialogue arguments profiles = .finish (.server ⟨url, arguments.user⟩) := by
  simp only [dialogue, noDemo, ProfileRequest.choose, unnamed, given]
  rfl

theorem dialogue_of_present (noDemo : isDemo arguments = false)
    (named : arguments.profile = some name) (noUrl : arguments.url = none)
    {stored : ProfileEntry} (present : profiles.get? name = some stored) :
    dialogue arguments profiles =
      .finish (.server ⟨stored.url, arguments.user <|> stored.user⟩) := by
  simp only [dialogue, noDemo, ProfileRequest.choose, named, noUrl, present]
  rfl

theorem dialogue_of_absent (noDemo : isDemo arguments = false)
    (named : arguments.profile = some name) (noUrl : arguments.url = none)
    (absent : profiles.get? name = none) :
    dialogue arguments profiles = create profiles name := by
  simp only [dialogue, noDemo, ProfileRequest.choose, named, noUrl, absent]
  rfl

theorem dialogue_of_menu (noDemo : isDemo arguments = false)
    (unnamed : arguments.profile = none) (noUrl : arguments.url = none)
    (filled : profiles.entries.isEmpty = false) :
    dialogue arguments profiles = select profiles profiles.names := by
  simp only [dialogue, noDemo, ProfileRequest.choose, unnamed, noUrl, filled]
  rfl

theorem dialogue_of_nothing (noDemo : isDemo arguments = false)
    (unnamed : arguments.profile = none) (noUrl : arguments.url = none)
    (noProfiles : profiles.entries.isEmpty = true) :
    dialogue arguments profiles =
      .say "No URL provided and no profiles to select.\n" (.finish .nothing) := by
  simp only [dialogue, noDemo, ProfileRequest.choose, unnamed, noUrl, noProfiles]
  rfl

end Choice

/-! ### Lines -/

/-- Whether nothing but white space is typed. -/
def LeftBlank (line : String) : Prop := Text.AllBlank line.toList

theorem isEmpty_trimmed_iff {line : String} :
    (trimmed line).isEmpty = true ↔ LeftBlank line := by
  rw [String.isEmpty_iff, trimmed, String.ofList_eq_empty_iff, Text.trim_eq_nil_iff, LeftBlank]

/-- The small spellings of an agreement. -/
def yesWords : List (List Char) := [['y'], ['y', 'e', 's']]

/-- Whether a line says yes, in letters of any case and between any blanks. -/
def SaysYes (line : String) : Prop :=
  ∃ before word after, line.toList = before ++ word ++ after ∧ Text.AllBlank before ∧
    Text.AllBlank after ∧ word.map Char.toLower ∈ yesWords

private theorem toLower_of_blank {c : Char} (blank : Text.isBlank c = true) : c.toLower = c := by
  have noCapital : ¬ (65 ≤ c.toNat ∧ c.toNat ≤ 90) := by
    simp only [Text.isBlank, Bool.or_eq_true, Bool.and_eq_true, decide_eq_true_eq,
      beq_iff_eq] at blank
    omega
  unfold Char.toLower
  exact dif_neg noCapital

private theorem noBlank_yesWords :
    (yesWords.flatten.all fun c => !Text.isBlank c) = true := by decide

private theorem noBlank_of_yesWord {word : List Char} (isYes : word.map Char.toLower ∈ yesWords) :
    ∀ c ∈ word, Text.isBlank c = false := by
  intro c member
  have lowered : c.toLower ∈ word.map Char.toLower := List.mem_map_of_mem member
  have letter : c.toLower ∈ yesWords.flatten := List.mem_flatten.mpr ⟨_, isYes, lowered⟩
  have shown : Text.isBlank c.toLower = false := by
    simpa using List.all_eq_true.mp noBlank_yesWords _ letter
  by_contra blank
  have isBlank : Text.isBlank c = true := by simpa using blank
  rw [toLower_of_blank isBlank] at shown
  exact blank shown

theorem isYes_iff {line : String} : isYes line = true ↔ SaysYes line := by
  have trims : isYes line = true ↔ (Text.trim line.toList).map Char.toLower ∈ yesWords := by
    rw [isYes, decide_eq_true_eq, trimmed, String.toList_ofList]
    exact Iff.rfl
  rw [trims]
  constructor
  · intro isYes
    obtain ⟨before, after, blankBefore, blankAfter, split⟩ :=
      Text.eq_append_trim_append line.toList
    exact ⟨before, _, after, split, blankBefore, blankAfter, isYes⟩
  · rintro ⟨before, word, after, split, blankBefore, blankAfter, isYes⟩
    have filled : word ≠ [] := by
      rintro rfl
      exact absurd isYes (by decide)
    have noBlank := noBlank_of_yesWord isYes
    rw [split, Text.trim_between blankBefore noBlank filled blankAfter]
    exact isYes

example : isYes " YeS\n" = true := by decide

/-! ### Runs -/

/-- What a run leaves behind that said some things, has a file and ends in some
way. -/
def Setting.report (setting : Setting) (said : String) (file : Option String) (ending : Ending) :
    Report where
  code := ending.code
  output := ending.output
  errors := said ++ ending.errors
  file := file
  logged := setting.logFilter.map fun text => LogFilter.admits text LogFilter.startRecord
  console := ending.console

/-- The profiles that a run finds. -/
def Setting.profiles (setting : Setting) : Profiles := Profiles.load setting.file

/-- The outcome of the dialogue of a run. -/
def Setting.outcome (setting : Setting) (arguments : Arguments) : List Profiles × Target :=
  (dialogue arguments setting.profiles).outcome setting.input.toList

/-- The profiles that a run saves, first to last. -/
def Setting.saves (setting : Setting) : List Profiles :=
  match parse setting.arguments with
  | .error _ => []
  | .ok arguments => (setting.outcome arguments).1

theorem run_of_parse {setting : Setting} {arguments : Arguments}
    (parsed : parse setting.arguments = .ok arguments) :
    ∃ said, run setting =
      setting.report said (fileAfter setting.file (setting.outcome arguments).1)
        (conclude (setting.outcome arguments).2 arguments.dryRun) := by
  obtain ⟨result, file⟩ := (dialogue arguments setting.profiles).play_outcome
    ⟨setting.input.toList, "", setting.file⟩
  refine ⟨((dialogue arguments setting.profiles).play
    ⟨setting.input.toList, "", setting.file⟩).2.written, ?_⟩
  rw [Setting.outcome, ← result, ← file]
  unfold run
  rw [parsed]
  rfl

theorem file_run (setting : Setting) :
    (run setting).file = fileAfter setting.file setting.saves := by
  cases parsed : parse setting.arguments with
  | error refusal =>
      unfold run Setting.saves
      rw [parsed]
      rfl
  | ok arguments =>
      obtain ⟨said, isReport⟩ := run_of_parse parsed
      rw [isReport, Setting.saves, parsed]
      rfl

end EventConsole.CommandLine
