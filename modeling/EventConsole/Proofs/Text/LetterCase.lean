import EventConsole.Text.LetterCase

/-!
Contract: lower-casing a part of a text, against lower-casing it alone.

Characters are lower-cased one by one, whatever is around them, but for the
capital sigma. Its form depends on the nearest character on either side that
casing does not ignore, be it inside the part or not.

Owns: lower-casing between two texts, and which texts are lower-cased alike
wherever they stand.
-/

namespace EventConsole.Text

/-! ### The nearest character that counts -/

/-- Whether the first character that casing does not ignore is cased, if there is
such a character. -/
def nearest (text : List Char) : Option Bool :=
  (text.dropWhile isCaseIgnorable).head?.map isCased

theorem startsCased_eq (text : List Char) : startsCased text = (nearest text).getD false := by
  unfold startsCased nearest
  cases text.dropWhile isCaseIgnorable <;> rfl

private theorem nearest_cons_of_ignorable {c : Char} (ignorable : isCaseIgnorable c = true)
    (rest : List Char) : nearest (c :: rest) = nearest rest := by
  rw [nearest, List.dropWhile_cons_of_pos ignorable, nearest]

theorem nearest_cons_of_not_ignorable {c : Char} (counts : isCaseIgnorable c = false)
    (rest : List Char) : nearest (c :: rest) = some (isCased c) := by
  rw [nearest, List.dropWhile_cons_of_neg (by simp [counts])]
  rfl

theorem nearest_append (text more : List Char) :
    nearest (text ++ more) = (nearest text).or (nearest more) := by
  induction text with
  | nil => rfl
  | cons c rest inductionHypothesis =>
      rw [List.cons_append]
      cases ignorable : isCaseIgnorable c with
      | true =>
          rw [nearest_cons_of_ignorable ignorable, nearest_cons_of_ignorable ignorable,
            inductionHypothesis]
      | false =>
          rw [nearest_cons_of_not_ignorable ignorable, nearest_cons_of_not_ignorable ignorable]
          rfl

private theorem nearest_cons_of_nearest {c : Char} {before other : List Char}
    (same : nearest before = nearest other) : nearest (c :: before) = nearest (c :: other) := by
  rw [← List.singleton_append, nearest_append, same, ← nearest_append, List.singleton_append]

@[simp] theorem nearest_cons_sigma (rest : List Char) : nearest ('Σ' :: rest) = some true :=
  nearest_cons_of_not_ignorable (by decide) rest

/-- A capital sigma is no character that casing ignores. -/
theorem not_mem_sigma_of_nearest {text : List Char} (nothing : nearest text = none) :
    'Σ' ∉ text := by
  intro member
  obtain ⟨before, after, rfl⟩ := List.append_of_mem member
  rw [nearest_append, nearest_cons_sigma, Option.or_eq_none_iff] at nothing
  exact Option.some_ne_none true nothing.2

/-! ### Parts of a text -/

/-- A character in lower case, between two texts. The one before is given last
character first. -/
def lowerAt (before : List Char) (c : Char) (after : List Char) : List Char :=
  if c = 'Σ' then if startsCased before && !startsCased after then ['ς'] else ['σ']
  else lowerChar c

/-- A text in lower case, between two others. -/
def lowerBetween (before : List Char) : List Char → List Char → List Char
  | [], _ => []
  | c :: rest, after =>
      lowerAt before c (rest ++ after) ++ lowerBetween (c :: before) rest after

private theorem lowerAfter_eq_lowerBetween (before text : List Char) :
    lowerAfter before text = lowerBetween before text [] := by
  induction text generalizing before with
  | nil => rfl
  | cons c rest inductionHypothesis =>
      rw [lowerAfter, lowerBetween, inductionHypothesis, List.append_nil]
      rfl

theorem lowerCase_eq_lowerBetween (text : List Char) :
    lowerCase text = lowerBetween [] text [] :=
  lowerAfter_eq_lowerBetween [] text

theorem lowerBetween_append (before text more after : List Char) :
    lowerBetween before (text ++ more) after =
      lowerBetween before text (more ++ after) ++
        lowerBetween (text.reverse ++ before) more after := by
  induction text generalizing before with
  | nil => rfl
  | cons c rest inductionHypothesis =>
      rw [List.cons_append, lowerBetween, lowerBetween, inductionHypothesis, List.append_assoc,
        List.append_assoc, List.reverse_cons, List.append_assoc, List.singleton_append]

/-- A text in lower case is made of its parts in lower case, each in its place. -/
theorem lowerCase_append_append (before text after : List Char) :
    lowerCase (before ++ text ++ after) =
      lowerBetween [] before (text ++ after) ++ lowerBetween before.reverse text after ++
        lowerBetween (text.reverse ++ before.reverse) after [] := by
  rw [lowerCase_eq_lowerBetween, List.append_assoc, lowerBetween_append, lowerBetween_append,
    List.append_nil, List.append_nil, List.append_nil, List.append_assoc]

/-- Only the nearest characters that count matter. -/
theorem lowerBetween_congr {before otherBefore after otherAfter : List Char}
    (sameBefore : nearest before = nearest otherBefore)
    (sameAfter : nearest after = nearest otherAfter) (text : List Char) :
    lowerBetween before text after = lowerBetween otherBefore text otherAfter := by
  induction text generalizing before otherBefore with
  | nil => rfl
  | cons c rest inductionHypothesis =>
      have sameRest : nearest (rest ++ after) = nearest (rest ++ otherAfter) := by
        rw [nearest_append, nearest_append, sameAfter]
      rw [lowerBetween, lowerBetween, inductionHypothesis (nearest_cons_of_nearest sameBefore),
        lowerAt, lowerAt, startsCased_eq, startsCased_eq, sameBefore, sameRest,
        ← startsCased_eq, ← startsCased_eq]

/-- Without a capital sigma nothing around a text matters. -/
theorem lowerBetween_of_not_mem {text : List Char} (noSigma : 'Σ' ∉ text)
    (before otherBefore after otherAfter : List Char) :
    lowerBetween before text after = lowerBetween otherBefore text otherAfter := by
  induction text generalizing before otherBefore with
  | nil => rfl
  | cons c rest inductionHypothesis =>
      rw [List.mem_cons, not_or] at noSigma
      have other : c ≠ 'Σ' := fun same => noSigma.1 same.symm
      rw [lowerBetween, lowerBetween, lowerAt, lowerAt, if_neg other, if_neg other,
        inductionHypothesis noSigma.2]

/-! ### Settled texts -/

/-- A capital sigma between two texts has the same form whatever is around them:
no cased character can come before it, or no uncased one after it, or it ends a
word for certain. The text before is given last character first. -/
def isSettledSigma (before after : List Char) : Bool :=
  nearest before = some false || nearest after = some true ||
    (nearest before = some true && nearest after = some false)

/-- Every capital sigma of a text that follows `before` is settled. -/
def isSettledAfter (before : List Char) : List Char → Bool
  | [] => true
  | c :: rest => (c ≠ 'Σ' || isSettledSigma before rest) && isSettledAfter (c :: before) rest

/-- Every capital sigma of a text has its form from the text alone. -/
def isSettled (text : List Char) : Bool := isSettledAfter [] text

theorem isSettledAfter_of_not_mem {text : List Char} (noSigma : 'Σ' ∉ text)
    (before : List Char) : isSettledAfter before text = true := by
  induction text generalizing before with
  | nil => rfl
  | cons c rest inductionHypothesis =>
      rw [List.mem_cons, not_or] at noSigma
      have other : c ≠ 'Σ' := fun same => noSigma.1 same.symm
      simp [isSettledAfter, other, inductionHypothesis noSigma.2]

private theorem lowerAt_of_isSettledSigma {before after : List Char}
    (settled : isSettledSigma before after = true) (pre post : List Char) :
    lowerAt (before ++ pre) 'Σ' (after ++ post) = lowerAt before 'Σ' after := by
  simp only [isSettledSigma, Bool.or_eq_true, Bool.and_eq_true, decide_eq_true_eq] at settled
  rw [lowerAt, lowerAt, startsCased_eq, startsCased_eq, startsCased_eq, startsCased_eq,
    nearest_append, nearest_append]
  rcases settled with (uncased | cased) | ⟨cased, uncased⟩
  · simp [uncased]
  · simp [cased]
  · simp [cased, uncased]

/-- A settled text is lower-cased in its place as it is alone. -/
theorem lowerBetween_of_isSettledAfter {before text : List Char}
    (settled : isSettledAfter before text = true) (pre post : List Char) :
    lowerBetween (before ++ pre) text post = lowerBetween before text [] := by
  induction text generalizing before with
  | nil => rfl
  | cons c rest inductionHypothesis =>
      rw [isSettledAfter, Bool.and_eq_true] at settled
      have rests := inductionHypothesis settled.2
      rw [List.cons_append] at rests
      rw [lowerBetween, lowerBetween, rests, List.append_nil]
      by_cases isSigma : c = 'Σ'
      · subst isSigma
        rw [lowerAt_of_isSettledSigma (by simpa using settled.1)]
      · rw [lowerAt, lowerAt, if_neg isSigma, if_neg isSigma]

private theorem exists_of_not_isSettledAfter {before text : List Char}
    (unsettled : isSettledAfter before text = false) :
    ∃ front back, text = front ++ 'Σ' :: back ∧
      isSettledSigma (front.reverse ++ before) back = false := by
  induction text generalizing before with
  | nil => contradiction
  | cons c rest inductionHypothesis =>
      rw [isSettledAfter, Bool.and_eq_false_iff] at unsettled
      rcases unsettled with here | later
      · simp only [Bool.or_eq_false_iff, decide_eq_false_iff_not, Decidable.not_not] at here
        obtain ⟨rfl, varies⟩ := here
        exact ⟨[], rest, rfl, varies⟩
      · obtain ⟨front, back, rfl, varies⟩ := inductionHypothesis later
        refine ⟨c :: front, back, rfl, ?_⟩
        rwa [List.reverse_cons, List.append_assoc, List.singleton_append]

/-! ### Unsettled texts -/

/-- A text is no part of one that has another character in place of one of its own,
and around it none of the latter. -/
theorem not_infix_of_exchange {α : Type} [DecidableEq α] {own other : α} (differ : other ≠ own)
    {front back before after : List α} (notBefore : own ∉ before) (notAfter : own ∉ after) :
    ¬ (front ++ own :: back) <:+: (before ++ (front ++ other :: back) ++ after) := by
  intro isPart
  have fewer := isPart.sublist.count_le own
  simp only [List.count_append, List.count_cons, List.count_eq_zero.mpr notBefore,
    List.count_eq_zero.mpr notAfter, beq_self_eq_true, beq_iff_eq, differ, if_true,
    if_false] at fewer
  omega

/-- The lower case of a text around one of its capital sigmas. -/
theorem lowerBetween_sigma (before front back after : List Char) :
    lowerBetween before (front ++ 'Σ' :: back) after =
      lowerBetween before front ('Σ' :: (back ++ after)) ++
        (lowerAt (front.reverse ++ before) 'Σ' (back ++ after) ++
          lowerBetween ('Σ' :: (front.reverse ++ before)) back after) := by
  rw [lowerBetween_append, lowerBetween, List.cons_append]

private theorem lowerBetween_letter (before after : List Char) :
    lowerBetween before ['A'] after = ['a'] := rfl

section Contexts

variable {front back : List Char}

/-- With nothing before it that counts, and no cased character next, a sigma becomes
final behind a letter. -/
theorem not_infix_behind_letter (openFront : nearest front.reverse = none)
    (notCased : nearest back ≠ some true) :
    ¬ lowerCase (front ++ 'Σ' :: back) <:+:
      lowerCase (['A'] ++ (front ++ 'Σ' :: back) ++ []) := by
  have noSigma : 'Σ' ∉ front := fun member =>
    not_mem_sigma_of_nearest openFront (List.mem_reverse.mpr member)
  have alone : lowerAt (front.reverse ++ []) 'Σ' (back ++ []) = ['σ'] := by
    rw [lowerAt, startsCased_eq, List.append_nil, openFront]
    rfl
  have inPlace : lowerAt (front.reverse ++ ['A'].reverse) 'Σ' (back ++ []) = ['ς'] := by
    have cased : nearest (front.reverse ++ ['A'].reverse) = some true := by
      rw [nearest_append, openFront]
      decide
    have endsThere : startsCased back = false := by
      rw [startsCased_eq]
      cases next : nearest back with
      | none => rfl
      | some isCased =>
          rw [next] at notCased
          simpa using notCased
    rw [lowerAt, startsCased_eq, cased, List.append_nil, endsThere]
    rfl
  have sameFront := lowerBetween_of_not_mem noSigma ['A'].reverse [] ('Σ' :: (back ++ []))
    ('Σ' :: (back ++ []))
  have sameBack : lowerBetween ('Σ' :: (front.reverse ++ ['A'].reverse)) back [] =
      lowerBetween ('Σ' :: (front.reverse ++ [])) back [] := lowerBetween_congr (by simp) rfl back
  rw [lowerCase_eq_lowerBetween, lowerCase_append_append, lowerBetween_sigma, lowerBetween_sigma,
    alone, inPlace, sameFront, sameBack, lowerBetween_letter]
  exact not_infix_of_exchange (by decide) (by decide) List.not_mem_nil

/-- A sigma that ends a word, with nothing after it that counts, is no longer final
in front of a letter. -/
theorem not_infix_before_letter (casedFront : nearest front.reverse = some true)
    (openBack : nearest back = none) :
    ¬ lowerCase (front ++ 'Σ' :: back) <:+:
      lowerCase ([] ++ (front ++ 'Σ' :: back) ++ ['A']) := by
  have alone : lowerAt (front.reverse ++ []) 'Σ' (back ++ []) = ['ς'] := by
    rw [lowerAt, startsCased_eq, startsCased_eq, List.append_nil, List.append_nil, casedFront,
      openBack]
    rfl
  have inPlace : lowerAt (front.reverse ++ [].reverse) 'Σ' (back ++ ['A']) = ['σ'] := by
    have cased : nearest (back ++ ['A']) = some true := by
      rw [nearest_append, openBack]
      decide
    rw [lowerAt, startsCased_eq, startsCased_eq, cased, List.reverse_nil, List.append_nil,
      casedFront]
    rfl
  have sameFront : lowerBetween [].reverse front ('Σ' :: (back ++ ['A'])) =
      lowerBetween [] front ('Σ' :: (back ++ [])) := lowerBetween_congr rfl (by simp) front
  have sameBack := lowerBetween_of_not_mem (not_mem_sigma_of_nearest openBack)
    ('Σ' :: (front.reverse ++ [].reverse)) ('Σ' :: (front.reverse ++ [])) ['A'] []
  rw [lowerCase_eq_lowerBetween, lowerCase_append_append, lowerBetween_sigma, lowerBetween_sigma,
    alone, inPlace, sameFront, sameBack, lowerBetween_letter]
  exact not_infix_of_exchange (by decide) List.not_mem_nil (by decide)

end Contexts

/-- A text that is not settled is lower-cased otherwise in some place. -/
theorem exists_not_infix_of_not_isSettled {text : List Char} (unsettled : isSettled text = false) :
    ∃ before after, ¬ lowerCase text <:+: lowerCase (before ++ text ++ after) := by
  obtain ⟨front, back, rfl, varies⟩ := exists_of_not_isSettledAfter unsettled
  simp only [isSettledSigma, List.append_nil, Bool.or_eq_false_iff, Bool.and_eq_false_iff,
    decide_eq_false_iff_not] at varies
  obtain ⟨⟨notUncased, notCased⟩, notFinal⟩ := varies
  cases before : nearest front.reverse with
  | none => exact ⟨['A'], [], not_infix_behind_letter before notCased⟩
  | some isCased =>
      cases isCased with
      | false => exact absurd before notUncased
      | true =>
          cases after : nearest back with
          | none => exact ⟨[], ['A'], not_infix_before_letter before after⟩
          | some isCased =>
              cases isCased with
              | true => exact absurd after notCased
              | false => exact absurd after (notFinal.resolve_left fun notSo => notSo before)

/-- A settled text in lower case is a part of every text in lower case that the
text is a part of. -/
theorem infix_of_isSettled {text : List Char} (settled : isSettled text = true)
    (before after : List Char) : lowerCase text <:+: lowerCase (before ++ text ++ after) := by
  have inPlace := lowerBetween_of_isSettledAfter settled before.reverse after
  rw [List.nil_append] at inPlace
  rw [lowerCase_append_append, inPlace, ← lowerCase_eq_lowerBetween]
  exact List.infix_append _ _ _

end EventConsole.Text
