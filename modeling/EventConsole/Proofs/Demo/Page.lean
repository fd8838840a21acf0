import EventConsole.Demo.Store
import EventConsole.Proofs.Json.Event
import EventConsole.Proofs.Text.Decimal

/-!
Contract: the page and the size that a query asks for, and the server's answer for a
page, which reads as the page of typed events.

A parameter gives a number when it is a numeral between blanks. The server goes by
a positive number below 2^63, and by the default for anything else: a larger
number counts as no number, so that a size beyond the word is not cut to the
greatest size but replaced by the default one.

Owns: the numbers that parameters give and the page request made of them, the slice of
a page, the number of pages, and reading the answer.

Does not own: how parameters come out of a query (`Demo.Query`).
-/

namespace EventConsole.Demo.PageRequest

open Text

/-- A parameter gives a number: its text is a numeral of it, with or without a plus
sign, between blanks. -/
def Gives (parameters : SortedMap String String) (name : String) (n : Nat) : Prop :=
  ∃ text, parameters.get? name = some text ∧ IsSignedNumeral n (trim text.toList)

/-- The bound of the numbers that the server goes by. -/
def wordBound : Nat := powerOf 2 63

variable {parameters : SortedMap String String} {name : String} {n : Nat}

/-! ### One parameter -/

/-- The server goes by the positive numbers below the bound. -/
theorem positive?_eq_some_iff :
    positive? (parameters.get? name) = some n ↔
      (1 ≤ n ∧ n < wordBound) ∧ Gives parameters name n := by
  have read : positive? (parameters.get? name) = some n ↔
      1 ≤ n ∧ (parameters.get? name).bind (fun text => signed64? (trim text.toList)) =
        some (n : Int) := by
    unfold positive?
    split
    case h_1 number isNumber =>
      rw [isNumber, Option.some.injEq]
      split
      case isTrue positive =>
        rw [Option.some.injEq]
        omega
      case isFalse notPositive =>
        refine iff_of_false (by simp) ?_
        rintro ⟨positive, same⟩
        omega
    case h_2 noNumber =>
      rw [noNumber]
      simp
  rw [read, Option.bind_eq_some_iff, and_assoc, Gives]
  refine and_congr_right fun positive => ?_
  constructor
  · rintro ⟨text, isText, number⟩
    have numeral := (signed64?_eq_some_iff positive).mp number
    exact ⟨numeral.1, text, isText, numeral.2⟩
  · rintro ⟨below, text, isText, numeral⟩
    exact ⟨text, isText, (signed64?_eq_some_iff positive).mpr ⟨below, numeral⟩⟩

/-- A parameter gives at most one positive number. -/
theorem Gives.unique {m : Nat} (one : Gives parameters name n) (other : Gives parameters name m) :
    n = m := by
  obtain ⟨text, isText, numeral⟩ := one
  obtain ⟨_, isText', numeral'⟩ := other
  obtain rfl : text = _ := Option.some.inj (isText.symm.trans isText')
  -- Under a bound above both numbers, both are what is read.
  have read {k : Nat} (below : k < n + m + 1) (isNumeral : IsSignedNumeral k (trim text.toList)) :
      natural? (n + m + 1) (trim text.toList) = some k :=
    natural?_eq_some_iff.mpr ⟨below, isNumeral⟩
  exact Option.some.inj ((read (by omega) numeral).symm.trans (read (by omega) numeral'))

/-- The number that the server goes by, or a default. -/
theorem getD_positive?_of_gives (default : Nat) (positive : 1 ≤ n)
    (gives : Gives parameters name n) :
    (positive? (parameters.get? name)).getD default = if n < wordBound then n else default := by
  split
  case isTrue below =>
    rw [positive?_eq_some_iff.mpr ⟨⟨positive, below⟩, gives⟩]
    rfl
  case isFalse notBelow =>
    have nothing : positive? (parameters.get? name) = none := by
      rw [Option.eq_none_iff_forall_ne_some]
      intro m read
      obtain ⟨⟨_, below⟩, gives'⟩ := positive?_eq_some_iff.mp read
      rw [gives'.unique gives] at below
      exact notBelow below
    rw [nothing]
    rfl

private theorem getD_positive?_of_none (default : Nat)
    (nothing : ∀ n, 1 ≤ n → ¬ Gives parameters name n) :
    (positive? (parameters.get? name)).getD default = default := by
  have noNumber : positive? (parameters.get? name) = none := by
    rw [Option.eq_none_iff_forall_ne_some]
    intro m read
    obtain ⟨⟨positive, _⟩, gives⟩ := positive?_eq_some_iff.mp read
    exact nothing m positive gives
  rw [noNumber]
  rfl

private theorem one_le_getD_positive? {default : Nat} (positive : 1 ≤ default) :
    1 ≤ (positive? (parameters.get? name)).getD default := by
  cases read : positive? (parameters.get? name) with
  | none => exact positive
  | some n => exact (positive?_eq_some_iff.mp read).1.1

/-! ### The page request -/

theorem page_ofParameters_of_gives (positive : 1 ≤ n) (gives : Gives parameters "page" n) :
    (ofParameters parameters).page = if n < wordBound then n else 1 :=
  getD_positive?_of_gives 1 positive gives

private theorem limit_ofParameters_of_gives (positive : 1 ≤ n)
    (gives : Gives parameters "limit" n) : (ofParameters parameters).limit =
      if n < wordBound then min n maximumLimit else defaultLimit := by
  rw [ofParameters, getD_positive?_of_gives defaultLimit positive gives]
  split
  · rfl
  · rfl

/-- Page and size are positive and the size is at most 200, whatever the query. A
positive number of any size that stands for the size of a page is honoured, up to
200, if and only if it is below 2^63, and the default of 50 takes its place
otherwise; likewise a page number, whose default is 1. Where a parameter gives no
positive number the default stands too. -/
theorem honours_ofParameters (parameters : SortedMap String String) :
    (1 ≤ (ofParameters parameters).page ∧ 1 ≤ (ofParameters parameters).limit ∧
      (ofParameters parameters).limit ≤ 200) ∧
    (∀ n, 1 ≤ n → Gives parameters "limit" n →
      ((ofParameters parameters).limit = min n 200 ↔ n < wordBound) ∧
      (wordBound ≤ n → (ofParameters parameters).limit = 50)) ∧
    (∀ n, 2 ≤ n → Gives parameters "page" n →
      ((ofParameters parameters).page ≠ 1 ↔ n < wordBound) ∧
      (n < wordBound → (ofParameters parameters).page = n)) ∧
    ((∀ n, 1 ≤ n → ¬ Gives parameters "limit" n) → (ofParameters parameters).limit = 50) ∧
    ((∀ n, 1 ≤ n → ¬ Gives parameters "page" n) → (ofParameters parameters).page = 1) := by
  have bound : 200 < wordBound := by decide
  refine ⟨⟨one_le_getD_positive? (by decide), ?_, Nat.min_le_right _ _⟩, ?_, ?_, ?_, ?_⟩
  · exact Nat.le_min.mpr ⟨one_le_getD_positive? (by decide), by decide⟩
  · intro n positive gives
    have limit := limit_ofParameters_of_gives positive gives
    by_cases below : n < wordBound
    · rw [if_pos below] at limit
      exact ⟨iff_of_true limit below, fun beyond => absurd below (Nat.not_lt.mpr beyond)⟩
    · rw [if_neg below] at limit
      refine ⟨iff_of_false (fun capped => ?_) below, fun _ => limit⟩
      rw [limit, defaultLimit] at capped
      omega
  · intro n large gives
    have page := page_ofParameters_of_gives (by omega) gives
    by_cases below : n < wordBound
    · rw [if_pos below] at page
      exact ⟨iff_of_true (by omega) below, fun _ => page⟩
    · rw [if_neg below] at page
      exact ⟨iff_of_false (fun other => other page) below, fun small => absurd small below⟩
  · intro nothing
    rw [ofParameters, getD_positive?_of_none defaultLimit nothing]
    rfl
  · intro nothing
    exact getD_positive?_of_none 1 nothing

/-- A query for the first page beyond the word, in pages of one more than the word
holds. -/
def hugeNumerals : SortedMap String String :=
  .ofList [("limit", " 9223372036854775808"), ("page", "+018446744073709551616")]

/-- Both numbers are numerals, and neither is honoured. -/
theorem honours_hugeNumerals :
    Gives hugeNumerals "limit" (powerOf 2 63) ∧ Gives hugeNumerals "page" (powerOf 2 64) ∧
      (ofParameters hugeNumerals).limit = 50 ∧ (ofParameters hugeNumerals).page = 1 := by
  have limit : Gives hugeNumerals "limit" (powerOf 2 63) :=
    ⟨" 9223372036854775808", by decide +kernel, .inl ⟨0, by decide +kernel⟩⟩
  have page : Gives hugeNumerals "page" (powerOf 2 64) :=
    ⟨"+018446744073709551616", by decide +kernel,
      .inr ⟨"018446744073709551616".toList, by decide +kernel, ⟨1, by decide +kernel⟩⟩⟩
  have honours := honours_ofParameters hugeNumerals
  refine ⟨limit, page, (honours.2.1 _ (by decide) limit).2 (Nat.le_refl _), ?_⟩
  by_contra other
  have below := (honours.2.2.1 _ (by decide) page).1.mp other
  exact absurd below (by decide)

end EventConsole.Demo.PageRequest

namespace EventConsole.Demo

open Json

/-- The part of a list that stands on a page. -/
def slice {α : Type} (items : List α) (request : PageRequest) : List α :=
  (items.drop ((request.page - 1) * request.limit)).take request.limit

/-- The page of events with which a request is answered. -/
def typedPage (events : List Event) (pages : Nat) (request : PageRequest) : EventsPage where
  status := some "success"
  data := some (slice events request)
  total := some (UInt64.ofNat events.length)
  count := some (UInt64.ofNat (slice events request).length)
  totalPages := some (UInt32.ofNat pages)
  page := some (UInt32.ofNat request.page)
  limit := some (UInt32.ofNat request.limit)

/-- Pages hold at least one event each. -/
theorem pages_le_count (count limit : Nat) : (count + (limit - 1)) / limit ≤ count := by
  cases limit with
  | zero => simp
  | succ below =>
      have bound : count + below < (count + 1) * (below + 1) := by
        rw [Nat.add_mul, Nat.mul_add]
        omega
      exact Nat.lt_succ_iff.mp (Nat.div_lt_of_lt_mul (by rwa [Nat.mul_comm] at bound))

/-! ### The typed page -/

section TypedPage

variable {events : List Event} {pages : Nat} {request : PageRequest}

theorem toNat_pageCount_typedPage (few : pages < powerOf 2 32) :
    (typedPage events pages request).pageCount.toNat = max 1 pages := by
  have exact : (UInt32.ofNat pages).toNat = pages := Value.toNat_ofNat_word32 few
  have chosen : (typedPage events pages request).pageCount =
      if 0 < UInt32.ofNat pages then UInt32.ofNat pages else 1 := by
    simp only [EventsPage.pageCount, typedPage, Option.filter_some]
    split <;> simp_all
  rw [chosen]
  split
  case isTrue positive =>
    rw [UInt32.lt_iff_toNat_lt, exact] at positive
    rw [exact]
    exact (Nat.max_eq_right positive).symm
  case isFalse zero =>
    rw [UInt32.lt_iff_toNat_lt, exact] at zero
    exact (Nat.max_eq_left (Nat.le_trans (Nat.le_of_not_lt zero) (Nat.zero_le 1))).symm

theorem toNat_totalEvents_typedPage (few : events.length < powerOf 2 32) :
    (typedPage events pages request).totalEvents.toNat = events.length := by
  have exact : (UInt64.ofNat events.length).toNat = events.length :=
    Value.toNat_ofNat_word64 (Nat.lt_trans few (by decide))
  have chosen : (typedPage events pages request).totalEvents =
      if 0 < UInt64.ofNat events.length then UInt64.ofNat events.length
      else UInt64.ofNat (slice events request).length := rfl
  rw [chosen]
  split
  case isTrue => exact exact
  case isFalse zero =>
    rw [UInt64.lt_iff_toNat_lt, exact] at zero
    have none : events = [] := List.eq_nil_of_length_eq_zero (Nat.eq_zero_of_not_pos zero)
    subst none
    simp [slice]

end TypedPage

/-! ### Reading the answer -/

namespace Store

variable {store : Store} {events : List Event} {request : PageRequest}

/-- Every field of the answer is exact while the store and the request fit their words. -/
theorem ofJson?_pageJson (decoded : store.events.mapM Event.ofJson? = some events)
    (few : store.events.length < powerOf 2 32) (page : request.page < powerOf 2 32)
    (limit : request.limit < powerOf 2 32) :
    EventsPage.ofJson? (store.pageJson request) =
      some (typedPage events (store.pageCount request.limit) request) := by
  have sameLength : store.events.length = events.length := length_of_mapM decoded
  have onPage : (store.page request).mapM Event.ofJson? = some (slice events request) :=
    mapM_drop_take decoded _ _
  have countLength : (store.page request).length = (slice events request).length :=
    length_of_mapM onPage
  have pages : store.pageCount request.limit < powerOf 2 32 :=
    Nat.lt_of_le_of_lt (pages_le_count _ _) few
  refine EventsPage.ofJson?_eq_some_iff.mpr
    ⟨_, rfl, ?status, ?data, ?total, ?count, ?totalPages, ?number, ?limit⟩
  case status => rfl
  case data => exact Value.optional?_array onPage
  case total =>
    change Value.optional? Value.natural? (some (Value.ofNat store.events.length)) =
      some (some (UInt64.ofNat events.length))
    rw [sameLength, Value.optional?_ofNat]
  case count =>
    change Value.optional? Value.natural? (some (Value.ofNat (store.page request).length)) =
      some (some (UInt64.ofNat (slice events request).length))
    rw [countLength, Value.optional?_ofNat]
  case totalPages => exact Value.optional?_ofNat_word32 pages
  case number => exact Value.optional?_ofNat_word32 page
  case limit => exact Value.optional?_ofNat_word32 limit

end Store

end EventConsole.Demo
