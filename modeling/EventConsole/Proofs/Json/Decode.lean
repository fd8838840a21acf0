import EventConsole.Json.Decode
import EventConsole.Proofs.Decoding

/-!
Contract: what the readers of fields give, and the members of an object by name, when a
name may occur again.

The last member of a name is the one that counts. A record whose fields may not be
given twice is read only when none of them is, and then the last member of a field
is its only one.

Owns: members of an object and last members, exact whole numbers, optional fields that
are present, fields that are given once, and what the readers of an optional text and
of a field with a default accept.
-/

namespace EventConsole.Json

/-! ### Members -/

theorem lookup?_append (name : String) (members more : Members) :
    lookup? name (members ++ more) = (lookup? name members).or (lookup? name more) := by
  induction members with
  | nil => rfl
  | cons member rest inductionHypothesis =>
      simp only [List.cons_append, lookup?, inductionHypothesis]
      split <;> rfl

theorem lookup?_eq_none {name : String} {members : Members}
    (absent : ∀ member ∈ members, member.1 ≠ name) : lookup? name members = none := by
  induction members with
  | nil => rfl
  | cons member rest inductionHypothesis =>
      rw [lookup?, if_neg (absent member (by simp))]
      exact inductionHypothesis fun other isOther => absent other (List.mem_cons_of_mem _ isOther)

namespace Value

/-! ### Whole numbers -/

theorem toNat_ofNat_word64 {n : Nat} (small : n < powerOf 2 64) : (UInt64.ofNat n).toNat = n := by
  rw [UInt64.toNat_ofNat']
  exact Nat.mod_eq_of_lt small

theorem toNat_ofNat_word32 {n : Nat} (small : n < powerOf 2 32) : (UInt32.ofNat n).toNat = n := by
  rw [UInt32.toNat_ofNat']
  exact Nat.mod_eq_of_lt small

private theorem natural?_ofNat (n : Nat) : natural? (ofNat n) = some (UInt64.ofNat n) := rfl

private theorem word32?_ofNat {n : Nat} (small : n < powerOf 2 32) :
    word32? (ofNat n) = some (UInt32.ofNat n) := by
  have exact64 : (UInt64.ofNat n).toNat = n :=
    toNat_ofNat_word64 (Nat.lt_trans small (by decide))
  have narrowed : (UInt64.ofNat n).toUInt32 = UInt32.ofNat n := by
    apply UInt32.toNat_inj.mp
    rw [UInt64.toNat_toUInt32, exact64, UInt32.toNat_ofNat']
  simp only [word32?, natural?_ofNat, Option.bind_some, exact64, if_pos small, narrowed]

theorem word32?_eq_some_iff {value : Value} {word : UInt32} :
    word32? value = some word ↔ value = .ofNat word.toNat := by
  constructor
  · intro read
    obtain ⟨wide, isNatural, fits⟩ := Option.bind_eq_some_iff.mp read
    split at fits
    case isFalse => contradiction
    case isTrue small =>
      obtain rfl := Option.some.inj fits
      have kept : wide.toUInt32.toNat = wide.toNat := by
        rw [UInt64.toNat_toUInt32]
        exact Nat.mod_eq_of_lt small
      rw [kept, ofNat, UInt64.ofNat_toNat]
      unfold natural? at isNatural
      split at isNatural
      case h_1 => rw [Option.some.inj isNatural]
      case h_2 => contradiction
  · rintro rfl
    rw [word32?_ofNat word.toNat_lt, UInt32.ofNat_toNat]

/-! ### Fields -/

theorem optional?_of_ne_null {α : Type} {decode : Value → Option α} {value : Value} {result : α}
    (present : value ≠ .null) (decoded : decode value = some result) :
    optional? decode (some value) = some (some result) := by
  cases value with
  | null => exact absurd rfl present
  | boolean | number | string | array | object => simp [optional?, decoded]

theorem exists_of_optional?_eq_some {α : Type} {decode : Value → Option α} {found : Option Value}
    {result : α} (present : optional? decode found = some (some result)) :
    ∃ value, found = some value ∧ decode value = some result := by
  unfold optional? at present
  split at present
  case h_1 | h_2 => simp at present
  case h_3 value _ =>
    obtain ⟨_, decoded, same⟩ := Option.map_eq_some_iff.mp present
    obtain rfl := Option.some.inj same
    exact ⟨value, rfl, decoded⟩

theorem optional?_ofNat {n : Nat} :
    optional? natural? (some (ofNat n)) = some (some (UInt64.ofNat n)) :=
  optional?_of_ne_null (fun isNull => nomatch isNull) (natural?_ofNat n)

theorem optional?_ofNat_word32 {n : Nat} (small : n < powerOf 2 32) :
    optional? word32? (some (ofNat n)) = some (some (UInt32.ofNat n)) :=
  optional?_of_ne_null (fun isNull => nomatch isNull) (word32?_ofNat small)

/-! ### Lists -/

theorem optional?_array {α : Type} {decode : Value → Option α} {items : List Value}
    {results : List α} (decoded : items.mapM decode = some results) :
    optional? (listOf? decode) (some (.array items)) = some (some results) :=
  optional?_of_ne_null (fun isNull => nomatch isNull) decoded

end Value

/-! ### Last members -/

/-- The value of the last member of a name. -/
def lastMember? (name : String) (members : Members) : Option Value :=
  lookup? name members.reverse

theorem lastMember?_cons (name key : String) (value : Value) (rest : Members) :
    lastMember? name ((key, value) :: rest) =
      (lastMember? name rest).or (if key = name then some value else none) := by
  rw [lastMember?, List.reverse_cons, lookup?_append]
  rfl

private theorem lastMember?_eq_none {name : String} {members : Members}
    (absent : ∀ member ∈ members, member.1 ≠ name) : lastMember? name members = none :=
  lookup?_eq_none fun member isMember => absent member (List.mem_reverse.mp isMember)

private theorem mem_of_lookup? {name : String} {value : Value} {members : Members}
    (found : lookup? name members = some value) : (name, value) ∈ members := by
  induction members with
  | nil => contradiction
  | cons member rest inductionHypothesis =>
      rw [lookup?] at found
      split at found
      case isTrue same =>
        rw [← same, ← Option.some.inj found]
        exact List.mem_cons_self
      case isFalse => exact List.mem_cons_of_mem _ (inductionHypothesis found)

theorem mem_of_lastMember? {name : String} {value : Value} {members : Members}
    (found : lastMember? name members = some value) : (name, value) ∈ members :=
  List.mem_reverse.mp (mem_of_lookup? found)

/-- The only member of a name is the first and the last one. -/
theorem lastMember?_of_isSingle {name : String} {members : Members}
    (single : Value.isSingle name members = true) :
    lastMember? name members = lookup? name members := by
  induction members with
  | nil => rfl
  | cons member rest inductionHypothesis =>
      obtain ⟨key, value⟩ := member
      rw [lastMember?_cons, lookup?]
      by_cases same : key = name
      · have alone : ∀ other ∈ rest, other.1 ≠ name := by
          simpa [Value.isSingle, same, List.filter_eq_nil_iff] using single
        rw [lastMember?_eq_none alone, if_pos same, if_pos same, Option.none_or]
      · have restSingle : Value.isSingle name rest = true := by
          simpa [Value.isSingle, same] using single
        rw [inductionHypothesis restSingle, if_neg same, if_neg same, Option.or_none]

namespace Value

/-- Whether none of some names stands twice among the members of an object. -/
def Once (names : List String) : Value → Prop
  | .object members => ∀ name ∈ names, isSingle name members = true
  | _ => True

theorem singleFields?_object_eq_some_iff {names : List String} {members : Members}
    {field : String → Option Value} :
    (Value.object members).singleFields? names = some field ↔
      (Value.object members).Once names ∧ field = fun name => lookup? name members := by
  have once : (names.all fun name => isSingle name members) = true ↔
      (Value.object members).Once names := List.all_eq_true
  rw [singleFields?, ← once]
  split
  case isTrue single => rw [and_iff_right single, fields?, Option.some.injEq, eq_comm]
  case isFalse twice => exact iff_of_false (fun read => nomatch read) fun both => twice both.1

/-- A text that may be absent or null, and what is read for it. -/
inductive GivesText : Option Value → Option String → Prop where
  | absent : GivesText none none
  | null : GivesText (some .null) none
  | text (text : String) : GivesText (some (.string text)) (some text)

theorem text?_eq_some_iff {value : Value} {text : String} :
    text? value = some text ↔ value = .string text := by
  cases value <;> simp [text?]

theorem optional?_text?_eq_some_iff {found : Option Value} {text : Option String} :
    optional? text? found = some text ↔ GivesText found text := by
  constructor
  · intro read
    cases found with
    | none =>
        obtain rfl := Option.some.inj read
        exact .absent
    | some value =>
        cases value with
        | null =>
            obtain rfl := Option.some.inj read
            exact .null
        | string given =>
            obtain rfl := Option.some.inj read
            exact .text given
        | boolean | number | array | object => contradiction
  · rintro (_ | _ | _) <;> rfl

theorem isSome_defaulting?_iff {α : Type} {decode : Value → Option α} {default : α}
    {found : Option Value} :
    (defaulting? decode default found).isSome = true ↔
      ∀ value, found = some value → (decode value).isSome = true := by
  cases found <;> simp [defaulting?]

end Value

end EventConsole.Json
