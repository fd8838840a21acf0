import EventConsole.CommandLine.Arguments
import Mathlib.Data.List.Basic

/-!
Contract: the arguments of the command are read in groups, whatever their order.

A group is an option with its value, a flag, or the one argument that is no option.
The value of an option is that of its last group, so groups of different options may
change places, and an option may be written in any of its forms.

Owns: the groups, what reading does with one group and with a list of them, and
which arguments cannot be read.

Does not own: what is done with the arguments.
-/

namespace EventConsole.CommandLine

/-! ### Groups -/

/-- The options that take a value. -/
inductive ValueOption where
  | profile
  | user
deriving DecidableEq, Repr

inductive Flag where
  | save
  | demo
  | dryRun
deriving DecidableEq, Repr

/-- How an option and its value are written. -/
inductive Form where
  | long
  | short
  /-- In one argument, with an equals sign between them. -/
  | joined
deriving DecidableEq, Repr

/-- Arguments that belong together. -/
inductive Group where
  | valued (option : ValueOption) (form : Form) (value : String)
  | flag (which : Flag)
  | positional (text : String)
deriving DecidableEq, Repr

namespace ValueOption

def longName : ValueOption → String
  | .profile => "--profile"
  | .user => "--user"

def shortName : ValueOption → String
  | .profile => "-P"
  | .user => "-u"

/-- The start of an argument that holds an option with its value. -/
def start : ValueOption → String
  | .profile => "--profile="
  | .user => "--user="

/-- An option in an argument of its own. -/
def names (option : ValueOption) : List String := [option.longName, option.shortName]

def word : ValueOption → Word
  | .profile => .profile
  | .user => .user

def wordIs : ValueOption → String → Word
  | .profile => .profileIs
  | .user => .userIs

end ValueOption

def Flag.name : Flag → String
  | .save => "--save"
  | .demo => "--demo"
  | .dryRun => "--dry-run"

def Flag.word : Flag → Word
  | .save => .save
  | .demo => .demo
  | .dryRun => .dryRun

def helpWords : List String := ["-h", "--help"]

/-- A text that is no spelling of an option, not even of one that is joined to an empty
value. -/
structure IsPositional (text : String) : Prop where
  noHelp : text ∉ helpWords
  noFlag : ∀ flag : Flag, text ≠ flag.name
  noName : ∀ option : ValueOption, text ∉ option.names
  notJoined : ∀ (option : ValueOption) (value : String), text ≠ option.start ++ value

namespace Group

/-- The arguments of a group. -/
def words : Group → List String
  | .valued option .long value => [option.longName, value]
  | .valued option .short value => [option.shortName, value]
  | .valued option .joined value => [option.start ++ value]
  | .flag which => [which.name]
  | .positional text => [text]

/-- A positional is no option. -/
def Complete : Group → Prop
  | .positional text => IsPositional text
  | _ => True

/-- A value that is joined to its option is not empty, and a positional is no
option. -/
def WellFormed : Group → Prop
  | .valued _ .joined value => value ≠ ""
  | .positional text => IsPositional text
  | _ => True

/-- The value that a group has for an option. -/
def value? (option : ValueOption) : Group → Option String
  | .valued other _ value => if other = option then some value else none
  | _ => none

def positional? : Group → Option String
  | .positional text => some text
  | _ => none

theorem WellFormed.complete {group : Group} (wellFormed : group.WellFormed) : group.Complete := by
  cases group with
  | valued option form value => trivial
  | flag which => trivial
  | positional text => exact wellFormed

end Group

/-- The arguments of some groups. -/
def written (groups : List Group) : List String := groups.flatMap Group.words

/-- The values that some groups have for an option. -/
def valuesOf (option : ValueOption) (groups : List Group) : List String :=
  groups.filterMap (Group.value? option)

/-- The texts of some groups that are no options. -/
def positionals (groups : List Group) : List String := groups.filterMap Group.positional?

/-- What some groups say: the value of the last group of each option, the flags that
occur, and the positional as URL. -/
def Arguments.ofGroups (groups : List Group) : Arguments where
  url := (positionals groups).head?
  profile := (valuesOf .profile groups).getLast?
  user := (valuesOf .user groups).getLast?
  save := decide (.flag .save ∈ groups)
  demo := decide (.flag .demo ∈ groups)
  dryRun := decide (.flag .dryRun ∈ groups)

/-! ### Single arguments -/

/-- The arguments that have a meaning as they stand. -/
def fixedWords : List String :=
  helpWords ++ [ValueOption.profile, .user].flatMap ValueOption.names ++
    [Flag.save, .demo, .dryRun].map Flag.name

theorem valueAfter?_eq_some_iff {start argument value : String} :
    valueAfter? start argument = some value ↔ argument = start ++ value := by
  unfold valueAfter?
  split
  case isTrue starts =>
    obtain ⟨rest, isRest⟩ := List.isPrefixOf_iff_prefix.mp starts
    rw [← isRest, ← String.length_toList, List.drop_left, Option.some.injEq, ← String.toList_inj,
      ← String.toList_inj, ← isRest, String.toList_append, String.toList_ofList,
      List.append_cancel_left_eq]
  case isFalse other =>
    refine iff_of_false nofun fun isJoined => other ?_
    rw [isJoined, String.toList_append]
    exact List.isPrefixOf_iff_prefix.mpr (List.prefix_append _ _)

theorem valueAfter?_eq_none {start argument : String} (other : ∀ value, argument ≠ start ++ value) :
    valueAfter? start argument = none :=
  Option.eq_none_iff_forall_not_mem.mpr fun value isValue =>
    other value (valueAfter?_eq_some_iff.mp isValue)

private theorem ofText_help {help : String} (isHelp : help ∈ helpWords) :
    Word.ofText help = .help := by
  simp only [helpWords, List.mem_cons, List.not_mem_nil, or_false] at isHelp
  rcases isHelp with rfl | rfl <;> rfl

private theorem ofText_name {option : ValueOption} {name : String} (isName : name ∈ option.names) :
    Word.ofText name = option.word := by
  simp only [ValueOption.names, List.mem_cons, List.not_mem_nil, or_false] at isName
  cases option <;> rcases isName with rfl | rfl <;> rfl

private theorem ofText_flag (flag : Flag) : Word.ofText flag.name = flag.word := by
  cases flag <;> rfl

/-- Of any other argument its start counts. -/
theorem ofText_of_not_mem {text : String} (notFixed : text ∉ fixedWords) :
    Word.ofText text =
      match valueAfter? ValueOption.profile.start text, valueAfter? ValueOption.user.start text with
      | some name, _ => .profileIs name
      | none, some name => .userIs name
      | none, none => .other text := by
  unfold Word.ofText
  split
  case h_10 => rfl
  all_goals exact absurd (by decide) notFixed

private theorem joined_not_mem (option : ValueOption) (value : String) :
    option.start ++ value ∉ fixedWords := by
  intro isFixed
  have noSign : ∀ word ∈ fixedWords, '=' ∉ word.toList := by decide
  have sign : '=' ∈ option.start.toList := by cases option <;> decide
  refine noSign _ isFixed ?_
  rw [String.toList_append]
  exact List.mem_append_left _ sign

private theorem start_inj {option other : ValueOption} {value name : String}
    (same : option.start ++ value = other.start ++ name) : option = other := by
  have third := congrArg (fun text => text.toList[2]?) same
  cases option <;> cases other
  case profile.profile | user.user => rfl
  all_goals simp [ValueOption.start] at third

private theorem ofText_joined (option : ValueOption) (value : String) :
    Word.ofText (option.start ++ value) = option.wordIs value := by
  rw [ofText_of_not_mem (joined_not_mem option value)]
  cases option with
  | profile =>
      rw [valueAfter?_eq_some_iff.mpr rfl]
      rfl
  | user =>
      have noProfile : valueAfter? ValueOption.profile.start (ValueOption.user.start ++ value) =
          none :=
        valueAfter?_eq_none fun name same => absurd (start_inj same) (by decide)
      rw [noProfile, valueAfter?_eq_some_iff.mpr rfl]
      rfl

theorem IsPositional.not_mem {text : String} (isPositional : IsPositional text) :
    text ∉ fixedWords := by
  intro isFixed
  rw [fixedWords, List.mem_append, List.mem_append] at isFixed
  rcases isFixed with (isHelp | isName) | isFlag
  · exact isPositional.noHelp isHelp
  · obtain ⟨option, -, isName⟩ := List.mem_flatMap.mp isName
    exact isPositional.noName option isName
  · obtain ⟨flag, -, isName⟩ := List.mem_map.mp isFlag
    exact isPositional.noFlag flag isName.symm

private theorem ofText_positional {text : String} (isPositional : IsPositional text) :
    Word.ofText text = .other text := by
  rw [ofText_of_not_mem isPositional.not_mem, valueAfter?_eq_none (isPositional.notJoined .profile),
    valueAfter?_eq_none (isPositional.notJoined .user)]

/-! ### What is found -/

namespace Arguments

/-- The value that is found for an option. -/
def value (found : Arguments) : ValueOption → Option String
  | .profile => found.profile
  | .user => found.user

/-- Whether a flag is found. -/
def has (found : Arguments) : Flag → Bool
  | .save => found.save
  | .demo => found.demo
  | .dryRun => found.dryRun

def withValue (found : Arguments) (option : ValueOption) (value : Option String) : Arguments :=
  match option with
  | .profile => { found with profile := value }
  | .user => { found with user := value }

def withFlag (found : Arguments) : Flag → Arguments
  | .save => { found with save := true }
  | .demo => { found with demo := true }
  | .dryRun => { found with dryRun := true }

/-- What is found with one group more. -/
def take (found : Arguments) : Group → Arguments
  | .valued option .joined value => found.withValue option (orKeep value (found.value option))
  | .valued option _ value => found.withValue option (some value)
  | .flag which => found.withFlag which
  | .positional text => { found with url := some text }

/-- Arguments are given by their values, their flags and their URL. -/
theorem eq_of_parts {found other : Arguments} (url : found.url = other.url)
    (values : ∀ option, found.value option = other.value option)
    (flags : ∀ which, found.has which = other.has which) : found = other := by
  have profile : found.profile = other.profile := values .profile
  have user : found.user = other.user := values .user
  have save : found.save = other.save := flags .save
  have demo : found.demo = other.demo := flags .demo
  have dryRun : found.dryRun = other.dryRun := flags .dryRun
  cases found
  cases other
  congr

section With

variable (found : Arguments)

@[simp] theorem value_withValue (option other : ValueOption) (value : Option String) :
    (found.withValue option value).value other =
      if option = other then value else found.value other := by
  cases option <;> cases other <;> rfl

@[simp] theorem has_withValue (option : ValueOption) (value : Option String) (which : Flag) :
    (found.withValue option value).has which = found.has which := by
  cases option <;> cases which <;> rfl

@[simp] theorem url_withValue (option : ValueOption) (value : Option String) :
    (found.withValue option value).url = found.url := by
  cases option <;> rfl

@[simp] theorem value_withFlag (which : Flag) (option : ValueOption) :
    (found.withFlag which).value option = found.value option := by
  cases which <;> cases option <;> rfl

@[simp] theorem has_withFlag (which other : Flag) :
    (found.withFlag which).has other = (decide (which = other) || found.has other) := by
  cases which <;> cases other <;> rfl

@[simp] theorem url_withFlag (which : Flag) : (found.withFlag which).url = found.url := by
  cases which <;> rfl

end With

end Arguments

/-! ### Reading one group -/

section Reading

variable {found : Arguments}

private theorem parseAfter_name {option : ValueOption} {name : String}
    (isName : name ∈ option.names) (value : String) (rest : List String) :
    parseAfter found (name :: value :: rest) =
      parseAfter (found.withValue option (some value)) rest := by
  rw [parseAfter, ofText_name isName]
  cases option <;> rfl

/-- An option at the end has no value, and takes back an earlier one. -/
theorem parseAfter_lastName {option : ValueOption} {name : String}
    (isName : name ∈ option.names) :
    parseAfter found [name] = .ok (found.withValue option none) := by
  rw [parseAfter, ofText_name isName]
  cases option <;> rfl

private theorem parseAfter_joined (option : ValueOption) (value : String) (rest : List String) :
    parseAfter found ((option.start ++ value) :: rest) =
      parseAfter (found.withValue option (orKeep value (found.value option))) rest := by
  rw [parseAfter.eq_def]
  dsimp only
  rw [ofText_joined]
  cases option <;> rfl

private theorem parseAfter_flag (which : Flag) (rest : List String) :
    parseAfter found (which.name :: rest) = parseAfter (found.withFlag which) rest := by
  rw [parseAfter.eq_def]
  dsimp only
  rw [ofText_flag]
  cases which <;> rfl

theorem parseAfter_help {help : String} (isHelp : help ∈ helpWords) (rest : List String) :
    parseAfter found (help :: rest) = .error .help := by
  rw [parseAfter.eq_def]
  dsimp only
  rw [ofText_help isHelp]

private theorem parseAfter_positional {text : String} (isPositional : IsPositional text)
    (rest : List String) :
    parseAfter found (text :: rest) =
      if found.url.isNone then parseAfter { found with url := some text } rest
      else .error .unexpected := by
  rw [parseAfter.eq_def]
  dsimp only
  rw [ofText_positional isPositional]

/-- The positionals up to and with some groups. -/
def seen (found : Arguments) (groups : List Group) : List String :=
  found.url.toList ++ positionals groups

/-- Reading goes on behind a complete group, unless it is a second positional. -/
theorem parseAfter_group {group : Group} (complete : group.Complete)
    (free : group.positional?.isSome = true → found.url = none) (rest : List String) :
    parseAfter found (group.words ++ rest) = parseAfter (found.take group) rest := by
  cases group with
  | valued option form value =>
      cases form with
      | long => exact parseAfter_name List.mem_cons_self value rest
      | short => exact parseAfter_name (List.mem_cons_of_mem _ List.mem_cons_self) value rest
      | joined => exact parseAfter_joined option value rest
  | flag which => exact parseAfter_flag which rest
  | positional text =>
      have none : found.url = none := free rfl
      refine (parseAfter_positional complete rest).trans ?_
      rw [none]
      rfl

/-- A group that can be read leaves the positionals what they are. -/
theorem seen_take {group : Group} (free : group.positional?.isSome = true → found.url = none)
    (groups : List Group) : seen (found.take group) groups = seen found (group :: groups) := by
  cases group with
  | valued option form value =>
      cases form <;>
        simp [seen, Arguments.take, positionals, Group.positional?, List.filterMap_cons]
  | flag which => simp [seen, Arguments.take, positionals, Group.positional?, List.filterMap_cons]
  | positional text =>
      have none : found.url = none := free rfl
      simp [seen, Arguments.take, positionals, Group.positional?, none]

end Reading

/-! ### Reading lists of groups -/

section Lists

variable {found : Arguments} {groups : List Group}

private theorem url_eq_none_of_single {group : Group}
    (single : (seen found (group :: groups)).length ≤ 1)
    (isPositional : group.positional?.isSome = true) : found.url = none := by
  obtain ⟨text, isText⟩ := Option.isSome_iff_exists.mp isPositional
  cases isUrl : found.url with
  | none => rfl
  | some url => simp [seen, isUrl, positionals, isText] at single

theorem parseAfter_written (complete : ∀ group ∈ groups, group.Complete)
    (single : (seen found groups).length ≤ 1) (rest : List String) :
    parseAfter found (written groups ++ rest) =
      parseAfter (groups.foldl Arguments.take found) rest := by
  induction groups generalizing found with
  | nil => rfl
  | cons group groups inductionHypothesis =>
      obtain ⟨first, others⟩ := List.forall_mem_cons.mp complete
      have free := url_eq_none_of_single single
      rw [← seen_take free] at single
      rw [written, List.flatMap_cons, List.append_assoc, parseAfter_group first free]
      exact inductionHypothesis others single

/-- Reading ends at a second positional. -/
theorem parseAfter_second (complete : ∀ group ∈ groups, group.Complete)
    (second : 2 ≤ (seen found groups).length) (rest : List String) :
    parseAfter found (written groups ++ rest) = .error .unexpected := by
  induction groups generalizing found with
  | nil => cases isUrl : found.url <;> simp [seen, isUrl, positionals] at second
  | cons group groups inductionHypothesis =>
      obtain ⟨first, others⟩ := List.forall_mem_cons.mp complete
      by_cases free : group.positional?.isSome = true → found.url = none
      · rw [← seen_take free] at second
        rw [written, List.flatMap_cons, List.append_assoc, parseAfter_group first free]
        exact inductionHypothesis others second
      · cases group with
        | valued option form value => exact absurd (fun isPositional => nomatch isPositional) free
        | flag which => exact absurd (fun isPositional => nomatch isPositional) free
        | positional text =>
            have taken : found.url ≠ none := fun none => free fun _ => none
            refine (parseAfter_positional first _).trans (if_neg ?_)
            rwa [Option.isNone_iff_eq_none]

private theorem url_foldl_take (single : (seen found groups).length ≤ 1) :
    (groups.foldl Arguments.take found).url.toList = seen found groups := by
  induction groups generalizing found with
  | nil => simp [seen, positionals]
  | cons group groups inductionHypothesis =>
      have free := url_eq_none_of_single single
      rw [← seen_take free] at single ⊢
      exact inductionHypothesis single

private theorem value_take {group : Group} (wellFormed : group.WellFormed) (option : ValueOption) :
    (found.take group).value option = (group.value? option).or (found.value option) := by
  cases group with
  | valued other form value =>
      cases form with
      | long | short => by_cases same : other = option <;> simp [Arguments.take, Group.value?, same]
      | joined =>
          have filled : value ≠ "" := wellFormed
          by_cases same : other = option <;>
            simp [Arguments.take, Group.value?, orKeep, same, filled]
  | flag which => simp [Arguments.take, Group.value?]
  | positional text => cases option <;> rfl

private theorem has_take (group : Group) (which : Flag) :
    (found.take group).has which = (decide (.flag which = group) || found.has which) := by
  cases group with
  | valued option form value => cases form <;> simp [Arguments.take]
  | flag other => simp [Arguments.take, eq_comm]
  | positional text => cases which <;> rfl

/-- The last group of an option counts. -/
theorem value_foldl_take (wellFormed : ∀ group ∈ groups, group.WellFormed)
    (option : ValueOption) :
    (groups.foldl Arguments.take found).value option =
      (valuesOf option groups).getLast?.or (found.value option) := by
  induction groups generalizing found with
  | nil => rfl
  | cons group groups inductionHypothesis =>
      obtain ⟨first, others⟩ := List.forall_mem_cons.mp wellFormed
      have values : valuesOf option (group :: groups) =
          (group.value? option).toList ++ valuesOf option groups := by
        rw [valuesOf, List.filterMap_cons]
        cases group.value? option <;> rfl
      have last : (group.value? option).toList.getLast? = group.value? option := by
        cases group.value? option <;> rfl
      rw [List.foldl_cons, inductionHypothesis others, value_take first, values,
        List.getLast?_append, last, Option.or_assoc]

private theorem has_foldl_take (which : Flag) :
    (groups.foldl Arguments.take found).has which =
      (decide (.flag which ∈ groups) || found.has which) := by
  induction groups generalizing found with
  | nil => simp
  | cons group groups inductionHypothesis =>
      rw [List.foldl_cons, inductionHypothesis, has_take]
      simp [Bool.or_left_comm, Bool.or_assoc]

/-- Some groups, in whatever order, are read as what they say. -/
theorem parse_written (wellFormed : ∀ group ∈ groups, group.WellFormed)
    (single : (positionals groups).length ≤ 1) :
    parse (written groups) = .ok (Arguments.ofGroups groups) := by
  have complete : ∀ group ∈ groups, group.Complete := fun group isGroup =>
    (wellFormed group isGroup).complete
  have isRead := @parseAfter_written Arguments.none groups complete single []
  rw [List.append_nil] at isRead
  refine isRead.trans (congrArg Except.ok (Arguments.eq_of_parts ?_ ?_ ?_))
  · have urls := @url_foldl_take Arguments.none groups single
    have head := congrArg List.head? urls
    rwa [Option.head?_toList] at head
  · intro option
    rw [value_foldl_take wellFormed]
    cases option <;> exact Option.or_none
  · intro which
    rw [has_foldl_take]
    cases which <;> exact Bool.or_false _

end Lists

end EventConsole.CommandLine
