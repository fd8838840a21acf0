import EventConsole.Client.Headers
import EventConsole.Proofs.Demo.Access
import EventConsole.Proofs.SortedMap

/-!
Contract: of several headers with one name the last is sent, and one header that
is not well formed refuses the request.

Owns: what a list of headers gives under a name, its first pair that is not well
formed, and the headers that are made of it.

Does not own: which names and values are well formed, beyond the value of a
credential, which always is.
-/

namespace EventConsole.Headers

/-! ### Lists of headers -/

def IsValid (pair : String × String) : Prop := isName pair.1 = true ∧ isValue pair.2 = true

/-- Some header of the list has the name, which is in lower case. -/
def IsGiven (extra : List (String × String)) (name : String) : Prop :=
  ∃ pair ∈ extra, lowerName pair.1 = name

/-- The value of the last header of the list that has the name. -/
def LastGiven (extra : List (String × String)) (name value : String) : Prop :=
  ∃ before given after, extra = before ++ (given, value) :: after ∧ lowerName given = name ∧
    ∀ pair ∈ after, lowerName pair.1 ≠ name

def FirstInvalid (extra : List (String × String)) (pair : String × String) : Prop :=
  ∃ before after, extra = before ++ pair :: after ∧ (∀ earlier ∈ before, IsValid earlier) ∧
    ¬ IsValid pair

/-- What is said of a pair that is not well formed: its name in lower case if only the
value is at fault, and otherwise the name as it was given. -/
def reason (pair : String × String) : Failure :=
  .invalidHeader (if isName pair.1 then lowerName pair.1 else pair.1)

/-- The headers with which a request begins. -/
def IsDefault (credential : Credential) (name value : String) : Prop :=
  (name = "authorization" ∧ value = credential.headerValue) ∨
    (name = "content-type" ∧ value = "application/json")

/-! ### Adding headers -/

section Adding

variable {headers : Headers} {extra : List (String × String)} {pair : String × String}

private theorem add?_of_isValid (valid : IsValid pair) :
    headers.add? pair.1 pair.2 = .ok (headers.insert (lowerName pair.1) pair.2) := by
  rw [add?, if_pos valid.1, if_pos valid.2]

private theorem add?_of_not_isValid (invalid : ¬ IsValid pair) :
    headers.add? pair.1 pair.2 = .error (reason pair) := by
  unfold add? reason
  split
  case isTrue validName =>
    rw [if_neg fun validValue => invalid ⟨validName, validValue⟩]
  case isFalse => rfl

/-- The headers with their names in lower case. -/
def lowered (extra : List (String × String)) : List (String × String) :=
  extra.map fun pair => (lowerName pair.1, pair.2)

private theorem addAll?_of_isValid (valid : ∀ pair ∈ extra, IsValid pair) :
    headers.addAll? extra =
      .ok ((lowered extra).foldl (fun map entry => map.insert entry.1 entry.2) headers) := by
  induction extra generalizing headers with
  | nil => rfl
  | cons pair rest inductionHypothesis =>
      rw [List.forall_mem_cons] at valid
      rw [addAll?, add?_of_isValid valid.1]
      exact inductionHypothesis valid.2

private theorem addAll?_of_firstInvalid (first : FirstInvalid extra pair) :
    headers.addAll? extra = .error (reason pair) := by
  obtain ⟨before, after, rfl, valid, invalid⟩ := first
  induction before generalizing headers with
  | nil => rw [List.nil_append, addAll?, add?_of_not_isValid invalid]
  | cons earlier rest inductionHypothesis =>
      rw [List.forall_mem_cons] at valid
      rw [List.cons_append, addAll?, add?_of_isValid valid.1]
      exact inductionHypothesis valid.2

private theorem isValid_or_firstInvalid (extra : List (String × String)) :
    (∀ pair ∈ extra, IsValid pair) ∨ ∃ pair, FirstInvalid extra pair := by
  induction extra with
  | nil => exact .inl fun _ member => absurd member List.not_mem_nil
  | cons pair rest inductionHypothesis =>
      by_cases valid : IsValid pair
      · refine inductionHypothesis.imp (fun others => List.forall_mem_cons.mpr ⟨valid, others⟩) ?_
        rintro ⟨bad, before, after, rfl, earlier, invalid⟩
        exact ⟨bad, pair :: before, after, rfl, List.forall_mem_cons.mpr ⟨valid, earlier⟩, invalid⟩
      · exact .inr ⟨pair, [], rest, rfl, fun _ member => absurd member List.not_mem_nil, valid⟩

private theorem FirstInvalid.not_forall_isValid (first : FirstInvalid extra pair) :
    ¬ ∀ pair ∈ extra, IsValid pair := by
  obtain ⟨before, after, rfl, _, invalid⟩ := first
  exact fun valid => invalid (valid pair (by simp))

end Adding

/-! ### Looking headers up -/

theorem valueIn_lowered_reverse_iff {extra : List (String × String)} {name value : String} :
    SortedMap.valueIn name (lowered extra).reverse = some value ↔ LastGiven extra name value := by
  rw [SortedMap.valueIn_reverse_eq_some_iff]
  constructor
  · rintro ⟨before, after, split, notAfter⟩
    obtain ⟨earlier, later, rfl, rfl, more⟩ := List.map_eq_append_iff.mp split
    obtain ⟨⟨given, _⟩, rest, rfl, same, rfl⟩ := List.map_eq_cons_iff.mp more
    obtain ⟨isName, rfl⟩ := Prod.mk.inj same
    exact ⟨earlier, given, rest, rfl, isName,
      fun pair member => notAfter _ (List.mem_map_of_mem member)⟩
  · rintro ⟨before, given, after, rfl, rfl, notAfter⟩
    refine ⟨lowered before, lowered after, by simp [lowered], fun entry member => ?_⟩
    obtain ⟨pair, isPair, rfl⟩ := List.mem_map.mp member
    exact notAfter pair isPair

theorem valueIn_lowered_reverse_eq_none_iff {extra : List (String × String)} {name : String} :
    SortedMap.valueIn name (lowered extra).reverse = none ↔ ¬ IsGiven extra name := by
  rw [SortedMap.valueIn, Option.map_eq_none_iff, List.find?_eq_none]
  constructor
  · rintro nowhere ⟨pair, member, rfl⟩
    have entry : (lowerName pair.1, pair.2) ∈ (lowered extra).reverse :=
      List.mem_reverse.mpr (List.mem_map_of_mem member)
    exact nowhere _ entry (beq_iff_eq.mpr Std.ReflCmp.compare_self)
  · intro absent entry member isKey
    obtain ⟨pair, isPair, rfl⟩ := List.mem_map.mp (List.mem_reverse.mp member)
    exact absent ⟨pair, isPair, (Std.LawfulEqOrd.eq_of_compare (beq_iff_eq.mp isKey)).symm⟩

theorem get?_defaults_iff {credential : Credential} {name value : String} :
    (defaults credential).get? name = some value ↔ IsDefault credential name value := by
  have different : authorization ≠ contentType := by decide
  unfold defaults IsDefault
  by_cases isType : name = contentType
  · subst isType
    have notAuthorization : contentType ≠ "authorization" := by decide
    rw [SortedMap.get?_insert_self, Option.some.injEq, eq_comm]
    exact ⟨fun same => .inr ⟨rfl, same⟩,
      fun isDefault => (isDefault.resolve_left fun first => notAuthorization first.1).2⟩
  · rw [SortedMap.get?_insert_of_ne _ _ isType]
    have notType : name ≠ "content-type" := isType
    by_cases isAuthorization : name = authorization
    · subst isAuthorization
      rw [SortedMap.get?_insert_self, Option.some.injEq, eq_comm]
      exact ⟨fun same => .inl ⟨rfl, same⟩,
        fun isDefault => (isDefault.resolve_right fun second => notType second.1).2⟩
    · have notAuthorization : name ≠ "authorization" := isAuthorization
      rw [SortedMap.get?_insert_of_ne _ _ isAuthorization]
      refine iff_of_false (by simp [SortedMap.get?, SortedMap.empty]) ?_
      rintro (first | second)
      · exact notAuthorization first.1
      · exact notType second.1

/-! ### Credentials -/

theorem isValue_of_isHeaderText {value : String} (shows : Demo.Login.IsHeaderText value) :
    isValue value = true := by
  refine List.all_eq_true.mpr fun c member => ?_
  have visible := shows c member
  simp only [Demo.Login.isHeaderText, Bool.or_eq_true, decide_eq_true_eq, Bool.and_eq_true]
    at visible
  simp only [Bool.or_eq_true, Bool.and_eq_true, decide_eq_true_eq]
  exact visible.imp_right fun bounds => ⟨bounds.1, by omega⟩

/-- What a credential writes into a header is well formed. -/
theorem isValue_headerValue (credential : Credential) :
    isValue credential.headerValue = true := by
  obtain ⟨encoded, username, password, rfl⟩ := credential
  exact isValue_of_isHeaderText (Demo.Login.carries_headerValue username password).1

/-- So the check of the credential itself always passes. -/
theorem merge_eq (credential : Credential) (extra : List (String × String)) :
    merge credential extra = addAll? (defaults credential) extra :=
  if_pos (isValue_headerValue credential)

theorem merge_nil (credential : Credential) : merge credential [] = .ok (defaults credential) :=
  merge_eq credential []

/-! ### The headers of a request -/

/-- Headers are made if and only if every pair is well formed. Each name then has one
value: that of the last header of the caller with this name, or the default when the
caller gives none; and no other name is present. Otherwise the failure names the first
pair that is not well formed. The value of a credential is well formed in any case. -/
theorem lastWins_merge (credential : Credential) (extra : List (String × String)) :
    ((∃ headers, merge credential extra = .ok headers) ↔ ∀ pair ∈ extra, IsValid pair) ∧
    (∀ headers, merge credential extra = .ok headers →
      headers.keys.Nodup ∧
      ∀ name value, (name, value) ∈ headers.entries ↔
        LastGiven extra name value ∨ (¬ IsGiven extra name ∧ IsDefault credential name value)) ∧
    (∀ failure, merge credential extra = .error failure ↔
      ∃ pair, FirstInvalid extra pair ∧ failure = reason pair) ∧
    ∀ username password, isValue (Credential.encode username password).headerValue = true := by
  have credentialIsValue (username password : String) :=
    isValue_headerValue (Credential.encode username password)
  rcases isValid_or_firstInvalid extra with valid | ⟨bad, first⟩
  case inl =>
    have merged : merge credential extra = .ok _ :=
      (merge_eq credential extra).trans (addAll?_of_isValid valid)
    refine ⟨iff_of_true ⟨_, merged⟩ valid, fun headers made => ⟨headers.nodup_keys, ?_⟩,
      fun failure => iff_of_false (by rw [merged]; simp) ?_, credentialIsValue⟩
    · intro name value
      rw [merged] at made
      rw [← SortedMap.get?_eq_some_iff, ← Except.ok.inj made, SortedMap.get?_foldl_insert,
        Option.or_eq_some_iff, valueIn_lowered_reverse_iff, valueIn_lowered_reverse_eq_none_iff,
        get?_defaults_iff]
    · rintro ⟨pair, first, _⟩
      exact first.not_forall_isValid valid
  case inr =>
    have refused : merge credential extra = .error (reason bad) :=
      (merge_eq credential extra).trans (addAll?_of_firstInvalid first)
    refine ⟨iff_of_false ?_ first.not_forall_isValid, ?_, fun failure => ?_, credentialIsValue⟩
    · rintro ⟨headers, made⟩
      rw [refused] at made
      contradiction
    · intro headers made
      rw [refused] at made
      contradiction
    · constructor
      · intro fails
        exact ⟨bad, first, Except.error.inj (fails.symm.trans refused)⟩
      · rintro ⟨pair, isFirst, rfl⟩
        exact (merge_eq credential extra).trans (addAll?_of_firstInvalid isFirst)

/-- A content type that is given twice in different letter case. -/
def twoContentTypes : List (String × String) :=
  [("Content-Type", "text/plain"), ("X-Trace", "1"), ("CONTENT-TYPE", "text/csv")]

/-- The second content type is sent, and the authorization of the credential. -/
theorem lastWins_twoContentTypes :
    ∃ headers, merge (Credential.encode "ada" "secret") twoContentTypes = .ok headers ∧
      ("content-type", "text/csv") ∈ headers.entries ∧
      ("authorization", (Credential.encode "ada" "secret").headerValue) ∈ headers.entries := by
  have lastWins := lastWins_merge (Credential.encode "ada" "secret") twoContentTypes
  have valid : ∀ pair ∈ twoContentTypes, IsValid pair := by
    unfold IsValid twoContentTypes
    decide +kernel
  obtain ⟨headers, made⟩ := lastWins.1.mpr valid
  have sends := (lastWins.2.1 headers made).2
  refine ⟨headers, made, (sends _ _).mpr (.inl ?_), (sends _ _).mpr (.inr ⟨?_, .inl ⟨rfl, rfl⟩⟩)⟩
  · exact ⟨[("Content-Type", "text/plain"), ("X-Trace", "1")], "CONTENT-TYPE", [], rfl,
      by decide +kernel, fun _ member => absurd member List.not_mem_nil⟩
  · unfold IsGiven twoContentTypes
    decide +kernel

end EventConsole.Headers
