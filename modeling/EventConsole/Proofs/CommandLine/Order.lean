import EventConsole.Proofs.CommandLine.Groups

/-!
Contract: the order and the form of the arguments do not matter, and only a second
positional is refused.

Groups of different options say the same in whatever order they stand, and whichever
form each of them has. All arguments are groups up to their end, where an option may
be without its value, or up to where help is asked for.

Owns: groups that are alike, where arguments ask for help, and which arguments are
refused.
-/

namespace EventConsole.CommandLine

/-! ### Other orders and forms -/

/-- What a group is about. -/
inductive Subject where
  | value (option : ValueOption)
  | flag (which : Flag)
  | url
deriving DecidableEq, Repr

def Group.subject : Group → Subject
  | .valued option _ _ => .value option
  | .flag which => .flag which
  | .positional _ => .url

/-- The groups about a subject, in their order. -/
def about (subject : Subject) (groups : List Group) : List Group :=
  groups.filter fun group => group.subject = subject

theorem mem_about {subject : Subject} {group : Group} {groups : List Group} :
    group ∈ about subject groups ↔ group ∈ groups ∧ group.subject = subject := by
  rw [about, List.mem_filter, decide_eq_true_eq]

/-- Groups that differ in the order of different subjects and in the forms of options. -/
inductive Alike : List Group → List Group → Prop where
  | nil : Alike [] []
  | cons (group : Group) {groups others : List Group} (alike : Alike groups others) :
      Alike (group :: groups) (group :: others)
  | swap {first second : Group} (different : first.subject ≠ second.subject)
      (groups : List Group) : Alike (first :: second :: groups) (second :: first :: groups)
  | respell (option : ValueOption) (form other : Form) (value : String) (groups : List Group) :
      Alike (.valued option form value :: groups) (.valued option other value :: groups)
  | trans {groups others more : List Group} (alike : Alike groups others)
      (again : Alike others more) : Alike groups more

namespace Alike

variable {groups others : List Group}

/-- What is taken from groups of one subject alone, in any form, is the same. -/
theorem filterMap_eq {α : Type} {f : Group → Option α} (subject : Subject)
    (ofSubject : ∀ group, (f group).isSome = true → group.subject = subject)
    (ofForm : ∀ option form other value,
      f (.valued option form value) = f (.valued option other value))
    (alike : Alike groups others) : groups.filterMap f = others.filterMap f := by
  induction alike with
  | nil => rfl
  | cons group _ inductionHypothesis =>
      rw [List.filterMap_cons, List.filterMap_cons, inductionHypothesis]
  | @swap first second different groups =>
      have notBoth : f first = none ∨ f second = none := by
        by_contra both
        obtain ⟨some, another⟩ := not_or.mp both
        exact different ((ofSubject _ (Option.isSome_iff_ne_none.mpr some)).trans
          (ofSubject _ (Option.isSome_iff_ne_none.mpr another)).symm)
      rw [List.filterMap_cons, List.filterMap_cons, List.filterMap_cons, List.filterMap_cons]
      rcases notBoth with none | none <;> rw [none]
  | respell option form other value groups =>
      rw [List.filterMap_cons, List.filterMap_cons, ofForm option form other value]
  | trans _ _ first second => exact first.trans second

theorem valuesOf_eq (alike : Alike groups others) (option : ValueOption) :
    valuesOf option groups = valuesOf option others := by
  refine alike.filterMap_eq (.value option) ?_ fun _ _ _ _ => rfl
  intro group hasValue
  cases group with
  | valued other form value =>
      by_cases same : other = option
      · rw [same]
        rfl
      · simp [Group.value?, same] at hasValue
  | flag which => contradiction
  | positional text => contradiction

theorem positionals_eq (alike : Alike groups others) : positionals groups = positionals others := by
  refine alike.filterMap_eq .url ?_ fun _ _ _ _ => rfl
  intro group isPositional
  cases group with
  | positional text => rfl
  | valued option form value => contradiction
  | flag which => contradiction

theorem flag_mem_iff (alike : Alike groups others) (which : Flag) :
    .flag which ∈ groups ↔ .flag which ∈ others := by
  induction alike with
  | nil => exact Iff.rfl
  | cons group _ inductionHypothesis => rw [List.mem_cons, List.mem_cons, inductionHypothesis]
  | swap different groups => simp only [List.mem_cons, or_left_comm]
  | respell option form other value groups => simp
  | trans _ _ first second => exact first.trans second

/-- Groups that are alike say the same. -/
theorem ofGroups_eq (alike : Alike groups others) :
    Arguments.ofGroups groups = Arguments.ofGroups others := by
  simp only [Arguments.ofGroups, alike.positionals_eq, alike.valuesOf_eq, alike.flag_mem_iff]

theorem refl (groups : List Group) : Alike groups groups := by
  induction groups with
  | nil => exact .nil
  | cons group _ inductionHypothesis => exact .cons group inductionHypothesis

/-- A group may go behind groups of other subjects. -/
theorem moved {group : Group} {before : List Group}
    (different : ∀ other ∈ before, other.subject ≠ group.subject) (after : List Group) :
    Alike (group :: (before ++ after)) (before ++ group :: after) := by
  induction before with
  | nil => exact refl _
  | cons first before inductionHypothesis =>
      obtain ⟨firstDiffers, othersDiffer⟩ := List.forall_mem_cons.mp different
      exact (swap firstDiffers.symm _).trans (cons first (inductionHypothesis othersDiffer))

/-- Groups are alike in every order in which those about one subject follow each other
as before. -/
theorem of_about_eq (same : ∀ subject, about subject groups = about subject others) :
    Alike groups others := by
  induction groups generalizing others with
  | nil =>
      cases others with
      | nil => exact .nil
      | cons other rest =>
          have isOther : other ∈ about other.subject (other :: rest) :=
            mem_about.mpr ⟨List.mem_cons_self, rfl⟩
          rw [← same] at isOther
          contradiction
  | cons group groups inductionHypothesis =>
      -- In the other order the first group has only groups about other subjects before it.
      have first := same group.subject
      rw [about, about, List.filter_cons_of_pos (by simp), eq_comm,
        List.filter_eq_cons_iff] at first
      obtain ⟨before, after, rfl, different, -, isAfter⟩ := first
      simp only [decide_eq_true_eq] at different
      refine (cons group (inductionHypothesis fun subject => ?_)).trans (moved different after)
      have ofSubject := same subject
      unfold about at ofSubject ⊢
      by_cases own : group.subject = subject
      · have none : before.filter (fun other => other.subject = subject) = [] := by
          rw [List.filter_eq_nil_iff]
          simpa [own] using different
        rw [List.filter_append, none, List.nil_append, ← own, isAfter]
      · simpa [own] using ofSubject

end Alike

/-! ### All arguments -/

/-- A text without a dash in front is no option. -/
theorem isPositional_of_noDash {text : String} (noDash : text.toList.head? ≠ some '-') :
    IsPositional text where
  noHelp isHelp :=
    noDash ((by decide : ∀ help ∈ helpWords, help.toList.head? = some '-') text isHelp)
  noFlag flag isFlag := noDash (by rw [isFlag]; cases flag <;> rfl)
  noName option isName := by
    have dashed : ∀ name ∈ option.names, name.toList.head? = some '-' := by
      cases option <;> decide
    exact noDash (dashed text isName)
  notJoined option value isJoined := by
    refine noDash ?_
    rw [isJoined, String.toList_append, List.head?_append]
    cases option <;> rfl

/-- What is left behind complete groups: nothing, an option without its value, or a
question for help. -/
inductive Trails : List String → Prop where
  | nothing : Trails []
  | name {option : ValueOption} {name : String} (isName : name ∈ option.names) : Trails [name]
  | help {help : String} (isHelp : help ∈ helpWords) (rest : List String) : Trails (help :: rest)

/-- Arguments ask for help where an option may stand. -/
def AsksForHelp (arguments : List String) : Prop :=
  ∃ groups help rest, (∀ group ∈ groups, Group.Complete group) ∧ help ∈ helpWords ∧
    arguments = written groups ++ help :: rest

private theorem not_asksForHelp {arguments : List String}
    (noHelp : ∀ help ∈ helpWords, help ∉ arguments) : ¬ AsksForHelp arguments := by
  rintro ⟨groups, help, rest, -, isHelp, rfl⟩
  exact noHelp help isHelp (List.mem_append_right _ List.mem_cons_self)

/-- Two of the arguments are positionals, with complete groups before and between them. -/
def HasSecondPositional (arguments : List String) : Prop :=
  ∃ groups rest, (∀ group ∈ groups, Group.Complete group) ∧ 2 ≤ (positionals groups).length ∧
    arguments = written groups ++ rest

/-- Arguments start with a complete group, if they are no end. -/
theorem exists_group (argument : String) (rest : List String) :
    Trails (argument :: rest) ∨
      ∃ group others, Group.Complete group ∧ argument :: rest = group.words ++ others := by
  by_cases isHelp : argument ∈ helpWords
  · exact .inl (.help isHelp rest)
  by_cases isFlag : ∃ which : Flag, argument = which.name
  · obtain ⟨which, rfl⟩ := isFlag
    exact .inr ⟨.flag which, rest, trivial, rfl⟩
  by_cases isJoined : ∃ (option : ValueOption) (value : String), argument = option.start ++ value
  · obtain ⟨option, value, rfl⟩ := isJoined
    exact .inr ⟨.valued option .joined value, rest, trivial, rfl⟩
  by_cases isName : ∃ option : ValueOption, argument ∈ option.names
  · obtain ⟨option, isName⟩ := isName
    cases rest with
    | nil => exact .inl (.name isName)
    | cons value rest =>
        simp only [ValueOption.names, List.mem_cons, List.not_mem_nil, or_false] at isName
        rcases isName with rfl | rfl
        · exact .inr ⟨.valued option .long value, rest, trivial, rfl⟩
        · exact .inr ⟨.valued option .short value, rest, trivial, rfl⟩
  · simp only [not_exists] at isFlag isJoined isName
    exact .inr ⟨.positional argument, rest, ⟨isHelp, isFlag, isName, isJoined⟩, rfl⟩

/-- All arguments are complete groups and an end. -/
theorem exists_groups (arguments : List String) :
    ∃ groups trail, (∀ group ∈ groups, Group.Complete group) ∧ Trails trail ∧
      arguments = written groups ++ trail := by
  -- A group takes one argument or two, so the induction is on how many there are.
  induction size : arguments.length using Nat.strongRecOn generalizing arguments with
  | ind length inductionHypothesis =>
      cases arguments with
      | nil => exact ⟨[], [], nofun, .nothing, rfl⟩
      | cons argument rest =>
          rcases exists_group argument rest with trails | ⟨group, others, complete, isSplit⟩
          · exact ⟨[], argument :: rest, nofun, trails, rfl⟩
          · have shorter : others.length < length := by
              have filled : 0 < group.words.length := by
                cases group with
                | valued option form value => cases form <;> exact Nat.succ_pos _
                | flag which => exact Nat.succ_pos _
                | positional text => exact Nat.succ_pos _
              have lengths := congrArg List.length isSplit
              rw [List.length_append] at lengths
              omega
            obtain ⟨groups, trail, areComplete, trails, rfl⟩ :=
              inductionHypothesis _ shorter others rfl
            have allComplete := List.forall_mem_cons.mpr ⟨complete, areComplete⟩
            refine ⟨group :: groups, trail, allComplete, trails, ?_⟩
            rw [isSplit, written, written, List.flatMap_cons, List.append_assoc]

private theorem parse_of_hasSecondPositional {arguments : List String}
    (second : HasSecondPositional arguments) : parse arguments = .error .unexpected := by
  obtain ⟨groups, rest, complete, two, rfl⟩ := second
  exact @parseAfter_second Arguments.none groups complete two rest

/-- A question for help is answered, unless a second positional stands before it. -/
theorem parse_of_help {groups : List Group} {help : String}
    (complete : ∀ group ∈ groups, group.Complete)
    (single : (positionals groups).length ≤ 1) (isHelp : help ∈ helpWords) (rest : List String) :
    parse (written groups ++ help :: rest) = .error .help := by
  rw [parse, @parseAfter_written Arguments.none groups complete single]
  exact parseAfter_help isHelp rest

/-- Without a second positional all arguments are read that do not ask for help. -/
theorem exists_parse_eq_ok {arguments : List String} (noHelp : ¬ AsksForHelp arguments)
    (noSecond : ¬ HasSecondPositional arguments) : ∃ found, parse arguments = .ok found := by
  obtain ⟨groups, trail, complete, trails, rfl⟩ := exists_groups arguments
  have single : (positionals groups).length ≤ 1 := by
    by_contra many
    exact noSecond ⟨groups, trail, complete, by omega, rfl⟩
  rw [parse, @parseAfter_written Arguments.none groups complete single]
  cases trails with
  | nothing => exact ⟨_, rfl⟩
  | name isName => exact ⟨_, parseAfter_lastName isName⟩
  | help isHelp rest => exact absurd ⟨groups, _, rest, complete, isHelp, rfl⟩ noHelp

/-- The only refusal without a question for help is that of a second positional. -/
theorem parse_eq_error_iff {arguments : List String} (noHelp : ¬ AsksForHelp arguments)
    (refusal : Refusal) :
    parse arguments = .error refusal ↔ refusal = .unexpected ∧ HasSecondPositional arguments := by
  constructor
  · intro refused
    have second : HasSecondPositional arguments := by
      by_contra noSecond
      obtain ⟨found, isRead⟩ := exists_parse_eq_ok noHelp noSecond
      rw [refused] at isRead
      contradiction
    rw [parse_of_hasSecondPositional second] at refused
    exact ⟨(Except.error.inj refused).symm, second⟩
  · rintro ⟨rfl, second⟩
    exact parse_of_hasSecondPositional second

/-- Groups that are alike are read alike. -/
theorem parse_eq_of_alike {groups others : List Group}
    (wellFormed : ∀ group ∈ groups, group.WellFormed)
    (otherFormed : ∀ group ∈ others, group.WellFormed)
    (single : (positionals groups).length ≤ 1) (alike : Alike groups others) :
    parse (written others) = parse (written groups) := by
  have otherSingle : (positionals others).length ≤ 1 := by
    rwa [← alike.positionals_eq]
  rw [parse_written wellFormed single, parse_written otherFormed otherSingle, alike.ofGroups_eq]

/-- Reading that depends on what groups say, and neither on the order of different
options nor on their forms. -/
structure ReadsInAnyOrder (read : List String → Except Refusal Arguments) : Prop where
  /-- Every option has the value of its last group. -/
  said : ∀ groups, (∀ group ∈ groups, Group.WellFormed group) → (positionals groups).length ≤ 1 →
    read (written groups) = .ok (Arguments.ofGroups groups)
  reordered : ∀ groups others, (∀ group ∈ groups, Group.WellFormed group) →
    (positionals groups).length ≤ 1 → (∀ subject, about subject groups = about subject others) →
    read (written others) = read (written groups)
  /-- In any order and any forms. -/
  respelled : ∀ groups others, (∀ group ∈ groups, Group.WellFormed group) →
    (∀ group ∈ others, Group.WellFormed group) → (positionals groups).length ≤ 1 →
    Alike groups others → read (written others) = read (written groups)
  /-- Without a question for help, only a second positional is refused. -/
  refused : ∀ arguments, ¬ AsksForHelp arguments → ∀ refusal,
    read arguments = .error refusal ↔ refusal = .unexpected ∧ HasSecondPositional arguments

theorem readsInAnyOrder_parse : ReadsInAnyOrder parse where
  said _ wellFormed single := parse_written wellFormed single
  reordered groups others wellFormed single same := by
    refine parse_eq_of_alike wellFormed (fun group isGroup => ?_) single (Alike.of_about_eq same)
    have isKept : group ∈ about group.subject others := mem_about.mpr ⟨isGroup, rfl⟩
    rw [← same, mem_about] at isKept
    exact wellFormed group isKept.1
  respelled _ _ wellFormed otherFormed single alike :=
    parse_eq_of_alike wellFormed otherFormed single alike
  refused _ noHelp refusal := parse_eq_error_iff noHelp refusal

/-- An option takes the next argument as its value, even one that looks like another
option. -/
theorem reads_mixed_groups :
    parse ["--user=ann", "-P", "--help", "http://siem:5000", "--user", ""] =
        .ok ⟨some "http://siem:5000", some "--help", some "", false, false, false⟩ ∧
      parse ["--profile=dev", "--save"] = parse ["--save", "-P", "dev"] ∧
      parse ["http://siem:5000", "--demo", "http://siem:5001"] = .error .unexpected := by
  have first : IsPositional "http://siem:5000" := isPositional_of_noDash (by decide)
  have second : IsPositional "http://siem:5001" := isPositional_of_noDash (by decide)
  refine ⟨?_, ?_, ?_⟩
  · exact readsInAnyOrder_parse.said
      [.valued .user .joined "ann", .valued .profile .short "--help",
        .positional "http://siem:5000", .valued .user .long ""]
      (by simp [Group.WellFormed, first]) (by decide)
  · exact readsInAnyOrder_parse.respelled
      [.flag .save, .valued .profile .short "dev"] [.valued .profile .joined "dev", .flag .save]
      (by simp [Group.WellFormed]) (by simp [Group.WellFormed]) (by decide)
      ((Alike.swap (by decide) []).trans (Alike.respell .profile .short .joined "dev" _))
  · refine (readsInAnyOrder_parse.refused _ (not_asksForHelp (by decide)) _).mpr
      ⟨rfl, [.positional "http://siem:5000", .flag .demo, .positional "http://siem:5001"], [],
        ?_, by decide, rfl⟩
    simp [Group.Complete, first, second]

end EventConsole.CommandLine
