import EventConsole.EventFilter
import EventConsole.Proofs.Text.LetterCase

/-!
Contract: a search finds the texts that hold its own text, but for sigmas.

Both texts are lower-cased whole before one is looked for in the other. A capital
sigma at an end of the search text may take another form in the searched text, and
then the search passes over it.

Owns: what a search admits, and for which search texts it admits every event that
holds the text.
-/

namespace EventConsole

/-- A text stands in the message or in the raw log line, without gaps. -/
def Event.Holds (event : Event) (text : String) : Prop :=
  ∃ field, (event.message = some field ∨ event.rawLog = some field) ∧
    text.toList <:+: field.toList

namespace EventFilter

/-- Only looks for a text. -/
def searchFor (text : String) : EventFilter := ⟨text, "", ""⟩

/-- No text is wanted of a field. -/
@[simp] theorem equals_empty (field : Option String) : equals "" field = true := rfl

private theorem occursIn_iff_infix {needle text : List Char} :
    occursIn needle text = true ↔ needle <:+: text := by
  induction text with
  | nil => rw [occursIn, List.isEmpty_iff, List.infix_nil]
  | cons c rest inductionHypothesis =>
      rw [occursIn, Bool.or_eq_true, List.isPrefixOf_iff_prefix, inductionHypothesis,
        List.infix_cons_iff]

theorem hits_iff {search : String} {field : Option String} :
    hits search field = true ↔
      ∃ text, field = some text ∧
        Text.lowerCase search.toList <:+: Text.lowerCase text.toList := by
  rw [hits, Option.any_eq_true]
  exact exists_congr fun text => and_congr_right fun _ => occursIn_iff_infix

theorem admits_searchFor_iff {text : String} (filled : text ≠ "") {event : Event} :
    (searchFor text).admits event = true ↔
      ∃ field, (event.message = some field ∨ event.rawLog = some field) ∧
        Text.lowerCase text.toList <:+: Text.lowerCase field.toList := by
  have notEmpty : text.isEmpty = false := by
    rw [← Bool.not_eq_true, String.isEmpty_iff]
    exact filled
  -- Severity and type are free.
  have justHits : (searchFor text).admits event =
      (hits text event.message || hits text event.rawLog) := by
    simp [admits, searchFor, notEmpty]
  rw [justHits, Bool.or_eq_true, hits_iff, hits_iff]
  constructor
  · rintro (⟨field, isMessage, isPart⟩ | ⟨field, isRaw, isPart⟩)
    · exact ⟨field, .inl isMessage, isPart⟩
    · exact ⟨field, .inr isRaw, isPart⟩
  · rintro ⟨field, isMessage | isRaw, isPart⟩
    · exact .inl ⟨field, isMessage, isPart⟩
    · exact .inr ⟨field, isRaw, isPart⟩

/-- An event with a message and nothing else. -/
def withMessage (text : List Char) : Event :=
  { (default : Event) with message := some (String.ofList text) }

private theorem holds_withMessage (before : List Char) (text : String) (after : List Char) :
    (withMessage (before ++ text.toList ++ after)).Holds text := by
  refine ⟨_, .inl rfl, ?_⟩
  rw [String.toList_ofList]
  exact List.infix_append _ _ _

private theorem not_admits_withMessage {text : String} (filled : text ≠ "") {message : List Char}
    (otherwise : ¬ Text.lowerCase text.toList <:+: Text.lowerCase message) :
    ¬ (searchFor text).admits (withMessage message) = true := by
  rw [admits_searchFor_iff filled]
  rintro ⟨field, isMessage | isRaw, isPart⟩
  · obtain rfl := Option.some.inj isMessage
    rw [String.toList_ofList] at isPart
    exact otherwise isPart
  · exact Option.some_ne_none field isRaw.symm

/-- A text stands in a field of an event, and is lower-cased there as it is alone. -/
def HoldsAlike (event : Event) (text : String) : Prop :=
  ∃ field before after, (event.message = some field ∨ event.rawLog = some field) ∧
    field.toList = before ++ text.toList ++ after ∧
    Text.lowerBetween before.reverse text.toList after = Text.lowerCase text.toList

/-- What a search finds: every event that holds its text in the same form, and so
every event that holds it at all exactly if no sigma of it depends on what is
around it, which none does in a text without capital sigmas. -/
structure FindsText (text : String) : Prop where
  alike : ∀ event, HoldsAlike event text → (searchFor text).admits event = true
  always : (∀ event : Event, event.Holds text → (searchFor text).admits event = true) ↔
    Text.isSettled text.toList = true
  noSigma : 'Σ' ∉ text.toList → Text.isSettled text.toList = true

private theorem admits_of_holdsAlike {text : String} (filled : text ≠ "") {event : Event}
    (holds : HoldsAlike event text) : (searchFor text).admits event = true := by
  obtain ⟨field, before, after, isField, split, alike⟩ := holds
  refine (admits_searchFor_iff filled).mpr ⟨field, isField, ?_⟩
  rw [split, Text.lowerCase_append_append, alike]
  exact List.infix_append _ _ _

private theorem admits_of_isSettled {text : String} (filled : text ≠ "")
    (settled : Text.isSettled text.toList = true) {event : Event} (holds : event.Holds text) :
    (searchFor text).admits event = true := by
  obtain ⟨field, isField, before, after, split⟩ := holds
  refine (admits_searchFor_iff filled).mpr ⟨field, isField, ?_⟩
  rw [← split]
  exact Text.infix_of_isSettled settled before after

/-- Whatever text is searched for. -/
theorem findsText (text : String) : FindsText text := by
  by_cases filled : text = ""
  · subst filled
    exact ⟨fun _ _ => rfl, iff_of_true (fun _ _ => rfl) rfl, fun _ => rfl⟩
  · refine ⟨fun event => admits_of_holdsAlike filled, ⟨fun finds => ?_, ?_⟩,
      fun noSigma => Text.isSettledAfter_of_not_mem noSigma []⟩
    · rw [← Bool.not_eq_false]
      intro unsettled
      obtain ⟨before, after, otherwise⟩ := Text.exists_not_infix_of_not_isSettled unsettled
      exact not_admits_withMessage filled otherwise (finds _ (holds_withMessage before text after))
    · intro settled event
      exact admits_of_isSettled filled settled

example : (withMessage "ΟΔΟΣΑ".toList).Holds "ΟΔΟΣ" ∧
    (searchFor "ΟΔΟΣ").admits (withMessage "ΟΔΟΣΑ".toList) = false := by
  refine ⟨holds_withMessage [] "ΟΔΟΣ" ['Α'], ?_⟩
  decide

end EventFilter

end EventConsole
