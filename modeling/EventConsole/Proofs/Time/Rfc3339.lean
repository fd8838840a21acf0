import EventConsole.Proofs.Text.Decimal
import EventConsole.Proofs.Time.Calendar
import EventConsole.Time.Rfc3339

/-!
Contract: a stamp that was read is read again from its written form.

A stamp is taken apart into the fields that are written: reading gives fields in
their ranges, and fields in their ranges are what their text reads as.

Owns: numbers of fixed width, fractions and offsets as text, fields of a stamp,
and the round trip of stamps.
-/

namespace EventConsole.Time

open Text

/-! ### Clocks -/

/-- The clock shows the day and the time of day that its seconds were counted from. -/
theorem Instant.clock_of_day {instant : Instant} {offset : Int} {date : Date}
    {hour minute second : Nat} (valid : date.Valid) (hours : hour ≤ 23) (minutes : minute ≤ 59)
    (seconds : second < 60)
    (counted : instant.seconds + offset =
      date.toDays * secondsPerDay + (hour * 3600 + minute * 60 + second : Nat)) :
    instant.clock offset =
      ⟨date, hour, minute, second + if instant.isLeap then 1 else 0⟩ := by
  have inDay : hour * 3600 + minute * 60 + second < 86400 := by omega
  have isHour : (hour * 3600 + minute * 60 + second) / 3600 = hour := by omega
  have isMinute : (hour * 3600 + minute * 60 + second) / 60 % 60 = minute := by omega
  have isSecond : (hour * 3600 + minute * 60 + second) % 60 = second := by omega
  generalize hour * 3600 + minute * 60 + second = ofDay at counted inDay isHour isMinute isSecond
  have days : (date.toDays * secondsPerDay + (ofDay : Int)) / secondsPerDay = date.toDays := by
    unfold secondsPerDay
    omega
  have rest : ((date.toDays * secondsPerDay + (ofDay : Int)) % secondsPerDay).toNat = ofDay := by
    unfold secondsPerDay
    omega
  simp only [clock, counted, days, rest, ofDays_toDays valid, isHour, isMinute, isSecond]

/-! ### Numbers of fixed width -/

section Padding

variable {width n : Nat}

theorem decimalDigit_of_mem_zeroPadded {c : Char} (member : c ∈ zeroPadded width n) :
    isDecimalDigit c = true := by
  rcases List.mem_append.mp member with isZero | isDigit
  · rw [List.eq_of_mem_replicate isZero]
    rfl
  · exact decimalDigit_of_mem isDigit

theorem decimalValue_zeroPadded (width n : Nat) : decimalValue (zeroPadded width n) = n :=
  (decimalValue_zeros_append _ _).trans (decimalValue_toDigits n)

theorem length_zeroPadded (filled : 0 < width) (small : n < powerOf 10 width) :
    (zeroPadded width n).length = width := by
  have notLonger : (Nat.toDigits 10 n).length ≤ width :=
    (Nat.length_toDigits_le_iff (by decide) filled).mpr small
  rw [zeroPadded, List.length_append, List.length_replicate]
  omega

end Padding

namespace Rfc3339

theorem digit?_eq (c : Char) :
    digit? c = if isDecimalDigit c = true then some (c.toNat - 48) else none := by
  simp [digit?, isDecimalDigit]

theorem isDigit_eq (c : Char) : isDigit c = isDecimalDigit c := by
  rw [isDigit, digit?_eq]
  cases isDecimalDigit c <;> rfl

private theorem fixed?_digits {digits : List Char}
    (allDigits : ∀ c ∈ digits, isDecimalDigit c = true) (value : Nat) (rest : List Char) :
    fixed? digits.length value (digits ++ rest) =
      some (digits.foldl (fun value c => value * 10 + (c.toNat - 48)) value, rest) := by
  induction digits generalizing value with
  | nil => rfl
  | cons c digits inductionHypothesis =>
      rw [List.forall_mem_cons] at allDigits
      simp only [List.length_cons, List.cons_append, fixed?, digit?_eq, allDigits.1, if_true,
        Option.bind_eq_bind, Option.bind_some, List.foldl_cons]
      exact inductionHypothesis allDigits.2 _

/-- A number filled up to its width reads as that number. -/
theorem fixed?_zeroPadded {width n : Nat} (filled : 0 < width) (small : n < powerOf 10 width)
    (rest : List Char) : fixed? width 0 (zeroPadded width n ++ rest) = some (n, rest) := by
  have allDigits : ∀ c ∈ zeroPadded width n, isDecimalDigit c = true :=
    fun _ => decimalDigit_of_mem_zeroPadded
  have isRead := fixed?_digits allDigits 0 rest
  rw [length_zeroPadded filled small] at isRead
  exact isRead.trans (congrArg (fun n => some (n, rest)) (decimalValue_zeroPadded width n))

private theorem lt_of_fixed? {count value n : Nat} {text rest : List Char}
    (isRead : fixed? count value text = some (n, rest)) : n < (value + 1) * powerOf 10 count := by
  induction count generalizing value text with
  | zero =>
      obtain ⟨rfl, -⟩ := Prod.mk.inj (Option.some.inj isRead)
      simp
  | succ count inductionHypothesis =>
      cases text with
      | nil => contradiction
      | cons c text =>
          obtain ⟨digit, isDigit, isRest⟩ := Option.bind_eq_some_iff.mp isRead
          have small : digit < 10 := by
            rw [digit?_eq] at isDigit
            split at isDigit
            case isTrue decimal =>
              have bounds := (isDecimalDigit_iff c).mp decimal
              have := Option.some.inj isDigit
              omega
            case isFalse => contradiction
          calc n < (value * 10 + digit + 1) * powerOf 10 count := inductionHypothesis isRest
            _ ≤ (value + 1) * 10 * powerOf 10 count := Nat.mul_le_mul_right _ (by omega)
            _ = (value + 1) * powerOf 10 (count + 1) := by
              rw [mul_assoc, mul_comm 10]
              rfl

/-! ### Fractions -/

theorem fraction?_digits {digits rest : List Char} (filled : digits ≠ [])
    (allDigits : ∀ c ∈ digits, isDecimalDigit c = true)
    (ends : ∀ c ∈ rest.head?, isDecimalDigit c = false) :
    fraction? ('.' :: (digits ++ rest)) = some (fractionNanos digits, rest) := by
  have isDigits : ∀ c ∈ digits, isDigit c = true := fun c member =>
    (isDigit_eq c).trans (allDigits c member)
  have noDigit : ∀ c ∈ rest.head?, isDigit c = false := fun c first =>
    (isDigit_eq c).trans (ends c first)
  have taken : rest.takeWhile isDigit = [] := by
    cases rest with
    | nil => rfl
    | cons c rest => exact List.takeWhile_cons_of_neg (by simp [noDigit c rfl])
  have dropped : rest.dropWhile isDigit = rest := by
    cases rest with
    | nil => rfl
    | cons c rest => exact List.dropWhile_cons_of_neg (by simp [noDigit c rfl])
  have notEmpty : digits.isEmpty = false := List.isEmpty_eq_false_iff.mpr filled
  simp [fraction?, List.takeWhile_append_of_pos isDigits, List.dropWhile_append_of_pos isDigits,
    taken, dropped, notEmpty]

private theorem fractionNanos_zeroPadded {width n : Nat} (filled : 0 < width) (few : width ≤ 9)
    (small : n < powerOf 10 width) :
    fractionNanos (zeroPadded width n) = n * powerOf 10 (9 - width) := by
  have length := length_zeroPadded filled small
  have kept : (zeroPadded width n).take 9 = zeroPadded width n :=
    List.take_of_length_le (by omega)
  have value := decimalValue_zeroPadded width n
  rw [decimalValue] at value
  simp only [fractionNanos, kept, length, value]

private theorem fractionNanos_lt {digits : List Char}
    (allDigits : ∀ c ∈ digits, isDecimalDigit c = true) :
    fractionNanos digits < nanosPerSecond := by
  have value : decimalValue (digits.take 9) < powerOf 10 (digits.take 9).length :=
    decimalValue_lt fun c member => allDigits c (List.mem_of_mem_take member)
  have few : (digits.take 9).length ≤ 9 := List.length_take_le 9 digits
  calc fractionNanos digits
      = decimalValue (digits.take 9) * powerOf 10 (9 - (digits.take 9).length) := rfl
    _ < powerOf 10 (digits.take 9).length * powerOf 10 (9 - (digits.take 9).length) :=
        Nat.mul_lt_mul_of_pos_right value (Nat.pow_pos (by decide))
    _ = powerOf 10 ((digits.take 9).length + (9 - (digits.take 9).length)) :=
        (Nat.pow_add 10 _ _).symm
    _ = nanosPerSecond := by
        rw [Nat.add_sub_cancel' few]
        rfl

private theorem lt_of_fraction? {text rest : List Char} {nanos : Nat}
    (isRead : fraction? text = some (nanos, rest)) : nanos < nanosPerSecond := by
  unfold fraction? at isRead
  split at isRead
  case h_1 rest' =>
    dsimp only at isRead
    split at isRead
    case isTrue => contradiction
    case isFalse =>
      obtain ⟨rfl, -⟩ := Prod.mk.inj (Option.some.inj isRead)
      have allDigits := List.all_eq_true.mp (List.all_takeWhile (p := isDigit) (l := rest'))
      exact fractionNanos_lt fun c member => (isDigit_eq c).symm.trans (allDigits c member)
  case h_2 =>
    obtain ⟨rfl, -⟩ := Prod.mk.inj (Option.some.inj isRead)
    decide

/-- Groups of three digits after the point read as the fraction that they show. -/
theorem fraction?_fractionText {nanos : Nat} (small : nanos < nanosPerSecond) {rest : List Char}
    (ends : ∀ c ∈ rest.head?, c ≠ '.' ∧ isDecimalDigit c = false) :
    fraction? (fractionText nanos ++ rest) = some (nanos, rest) := by
  have shown {width n : Nat} (filled : 0 < width) (few : width ≤ 9) (below : n < powerOf 10 width)
      (exact : n * powerOf 10 (9 - width) = nanos) :
      fraction? ('.' :: zeroPadded width n ++ rest) = some (nanos, rest) := by
    have digits : zeroPadded width n ≠ [] :=
      List.ne_nil_of_length_pos (by rw [length_zeroPadded filled below]; exact filled)
    rw [List.cons_append, fraction?_digits digits (fun _ => decimalDigit_of_mem_zeroPadded)
        (fun c first => (ends c first).2),
      fractionNanos_zeroPadded filled few below, exact]
  unfold nanosPerSecond at small
  unfold fractionText
  split_ifs with none millis micros
  · subst none
    cases rest with
    | nil => rfl
    | cons c rest =>
        have other : c ≠ '.' := (ends c rfl).1
        simp [fraction?, other]
  · exact shown (by decide) (by decide) (show _ < 1000 by omega)
      (show _ * 1000000 = nanos by omega)
  · exact shown (by decide) (by decide) (show _ < 1000000 by omega) (show _ * 1000 = nanos by omega)
  · exact shown (by decide) (by decide) (show _ < 1000000000 by omega) (Nat.mul_one nanos)

/-! ### Offsets -/

/-- Offsets are whole minutes of less than a day. -/
def IsOffset (offset : Int) : Prop := ∃ minutes : Int, offset = 60 * minutes ∧ minutes.natAbs < 1440

private theorem unit_of_offsetSign? {c : Char} {sign : Int} (isSign : offsetSign? c = some sign) :
    sign = 1 ∨ sign = -1 := by
  unfold offsetSign? at isSign
  split_ifs at isSign
  · exact .inl (Option.some.inj isSign).symm
  · exact .inr (Option.some.inj isSign).symm

private theorem isOffset_of_offset? {text rest : List Char} {offset : Int}
    (isRead : offset? text = some (offset, rest)) : IsOffset offset := by
  cases text with
  | nil => contradiction
  | cons c text =>
      rw [offset?] at isRead
      split at isRead
      case isTrue =>
        obtain ⟨rfl, -⟩ := Prod.mk.inj (Option.some.inj isRead)
        exact ⟨0, by decide⟩
      case isFalse =>
        simp only [Option.bind_eq_bind, Option.bind_eq_some_iff] at isRead
        obtain ⟨sign, isSign, ⟨hours, _⟩, -, _, -, ⟨minutes, _⟩, -, inDay⟩ := isRead
        split at inDay
        case isFalse => contradiction
        case isTrue small =>
          dsimp only at small inDay
          obtain ⟨rfl, -⟩ := Prod.mk.inj (Option.some.inj inDay)
          rcases unit_of_offsetSign? isSign with rfl | rfl
          · exact ⟨hours * 60 + minutes, by omega, by omega⟩
          · exact ⟨-(hours * 60 + minutes), by omega, by omega⟩

/-- The offset as it is written at the end of a stamp. -/
def zoneText (offset : Int) : List Char := if offset = 0 then ['Z'] else offsetText offset

private theorem zoneText_starts (offset : Int) :
    ∀ c ∈ (zoneText offset).head?, c ≠ '.' ∧ isDecimalDigit c = false := by
  unfold zoneText offsetText
  split_ifs <;> simp [isDecimalDigit]

/-- An offset other than zero starts with its sign, and no Z. -/
theorem exists_sign {minutes : Int} (nonzero : 60 * minutes ≠ 0) :
    ∃ sign, (if 60 * minutes < 0 then '-' else '+') = sign ∧ ¬ (sign = 'Z' ∨ sign = 'z') ∧
      offsetSign? sign = some minutes.sign := by
  split
  case isTrue negative =>
    exact ⟨'-', rfl, by decide, by rw [Int.sign_eq_neg_one_of_neg (by omega)]; rfl⟩
  case isFalse =>
    exact ⟨'+', rfl, by decide, by rw [Int.sign_eq_one_of_pos (by omega)]; rfl⟩

private theorem sign_mul_clock (minutes : Int) :
    minutes.sign * (((minutes.natAbs / 60 * 60 + minutes.natAbs % 60) * 60 : Nat) : Int) =
      60 * minutes := by
  rw [Nat.div_add_mod', Int.natCast_mul, ← mul_assoc, Int.sign_mul_natAbs]
  omega

private theorem offset?_zoneText {offset : Int} (isOffset : IsOffset offset) :
    offset? (zoneText offset) = some (offset, []) := by
  obtain ⟨minutes, rfl, small⟩ := isOffset
  unfold zoneText
  split
  case isTrue isZero =>
    rw [isZero]
    rfl
  case isFalse nonzero =>
    obtain ⟨sign, isSign, signed, unit⟩ := exists_sign nonzero
    have minutesOf : (60 * minutes).natAbs / 60 = minutes.natAbs := by omega
    have isText : offsetText (60 * minutes) =
        sign :: (zeroPadded 2 (minutes.natAbs / 60) ++
          ':' :: (zeroPadded 2 (minutes.natAbs % 60) ++ [])) := by
      rw [offsetText, minutesOf, isSign]
      simp
    have hours := fixed?_zeroPadded (show 0 < 2 by decide)
      (show minutes.natAbs / 60 < powerOf 10 2 from show _ < 100 by omega)
    have rest := fixed?_zeroPadded (show 0 < 2 by decide)
      (show minutes.natAbs % 60 < powerOf 10 2 from show _ < 100 by omega)
    rw [isText, offset?, if_neg signed]
    simp only [unit, hours, rest, mark?, if_true, Option.bind_eq_bind, Option.bind_some]
    rw [if_pos (by omega), sign_mul_clock]
    rfl

/-! ### Fields of a stamp -/

/-- What a stamp is written with. -/
structure Fields where
  date : Date
  hour : Nat
  minute : Nat
  second : Nat
  nanos : Nat
  offset : Int

namespace Fields

def stamp? (fields : Fields) : Option Stamp :=
  assemble? fields.date fields.hour fields.minute fields.second fields.nanos fields.offset

structure InRange (fields : Fields) : Prop where
  year : 0 ≤ fields.date.year ∧ fields.date.year ≤ 9999
  date : fields.date.Valid
  hour : fields.hour ≤ 23
  minute : fields.minute ≤ 59
  second : fields.second ≤ 60
  nanos : fields.nanos < nanosPerSecond
  offset : IsOffset fields.offset

/-- The fields that a stamp was read from are in their ranges. -/
theorem exists_of_parse? {text : List Char} {stamp : Stamp} (isRead : parse? text = some stamp) :
    ∃ fields : Fields, fields.InRange ∧ fields.stamp? = some stamp := by
  obtain ⟨⟨year, _⟩, isYear, isRead⟩ := Option.bind_eq_some_iff.mp isRead
  obtain ⟨_, -, isRead⟩ := Option.bind_eq_some_iff.mp isRead
  obtain ⟨⟨month, _⟩, -, isRead⟩ := Option.bind_eq_some_iff.mp isRead
  obtain ⟨_, -, isRead⟩ := Option.bind_eq_some_iff.mp isRead
  obtain ⟨⟨day, _⟩, -, isRead⟩ := Option.bind_eq_some_iff.mp isRead
  obtain ⟨_, -, isRead⟩ := Option.bind_eq_some_iff.mp isRead
  obtain ⟨⟨hour, _⟩, -, isRead⟩ := Option.bind_eq_some_iff.mp isRead
  obtain ⟨_, -, isRead⟩ := Option.bind_eq_some_iff.mp isRead
  obtain ⟨⟨minute, _⟩, -, isRead⟩ := Option.bind_eq_some_iff.mp isRead
  obtain ⟨_, -, isRead⟩ := Option.bind_eq_some_iff.mp isRead
  obtain ⟨⟨second, _⟩, -, isRead⟩ := Option.bind_eq_some_iff.mp isRead
  obtain ⟨⟨nanos, _⟩, isFraction, isRead⟩ := Option.bind_eq_some_iff.mp isRead
  obtain ⟨⟨offset, rest⟩, isOffset, isStamp⟩ := Option.bind_eq_some_iff.mp isRead
  dsimp only at isStamp
  split at isStamp
  case isFalse => contradiction
  case isTrue =>
    have valid : (⟨year, month, day⟩ : Date).Valid ∧ hour ≤ 23 ∧ minute ≤ 59 ∧ second ≤ 60 := by
      unfold assemble? at isStamp
      split at isStamp
      case isTrue valid => exact valid
      case isFalse => contradiction
    have small : year < 10000 := by
      have below := lt_of_fixed? isYear
      simpa using below
    exact ⟨⟨⟨year, month, day⟩, hour, minute, second, nanos, offset⟩,
      { year := ⟨Int.natCast_nonneg year, by dsimp only; omega⟩
        date := valid.1
        hour := valid.2.1
        minute := valid.2.2.1
        second := valid.2.2.2
        nanos := lt_of_fraction? isFraction
        offset := isOffset_of_offset? isOffset }, isStamp⟩

/-- The clock of a stamp shows the fields that the stamp was made from. -/
theorem clock_eq {fields : Fields} (inRange : fields.InRange) {stamp : Stamp}
    (isStamp : fields.stamp? = some stamp) :
    stamp.clock = ⟨fields.date, fields.hour, fields.minute, fields.second⟩ ∧
      stamp.instant.nanos % nanosPerSecond = fields.nanos ∧ stamp.offset = fields.offset := by
  obtain ⟨date, hour, minute, second, nanos, offset⟩ := fields
  obtain ⟨-, valid, hours, minutes, seconds, small, -⟩ := inRange
  dsimp only at valid hours minutes seconds small
  rw [stamp?, assemble?, if_pos ⟨valid, hours, minutes, seconds⟩] at isStamp
  obtain rfl := Option.some.inj isStamp
  by_cases leap : second = 60
  · subst leap
    refine ⟨(Instant.clock_of_day valid hours minutes (show 59 < 60 by decide) ?_).trans ?_, ?_,
      rfl⟩
    · exact Int.sub_add_cancel _ _
    · simp [Instant.isLeap]
    · simp [Nat.mod_eq_of_lt small]
  · refine ⟨(Instant.clock_of_day valid hours minutes (show second < 60 by omega) ?_).trans ?_, ?_,
      rfl⟩
    · rw [if_neg leap]
      exact Int.sub_add_cancel _ _
    · simp [Instant.isLeap, leap, small]
    · simp [leap, Nat.mod_eq_of_lt small]

/-- The text of a stamp with these fields. -/
def text (fields : Fields) : List Char :=
  zeroPadded 4 fields.date.year.toNat ++ '-' :: (zeroPadded 2 fields.date.month ++
    '-' :: (zeroPadded 2 fields.date.day ++ 'T' :: (zeroPadded 2 fields.hour ++
      ':' :: (zeroPadded 2 fields.minute ++ ':' :: (zeroPadded 2 fields.second ++
        (fractionText fields.nanos ++ zoneText fields.offset))))))

theorem text_eq {fields : Fields} (inRange : fields.InRange) {stamp : Stamp}
    (isStamp : fields.stamp? = some stamp) : stamp.text = fields.text := by
  obtain ⟨clock, nanos, offset⟩ := clock_eq inRange isStamp
  rw [Stamp.text, clock, nanos, offset, Clock.isoDate, Clock.time, Clock.hourMinute, yearText,
    if_pos inRange.year, text, zoneText]
  simp

/-- The text of a stamp with these fields, and its zone as it is given. -/
def textWith (fields : Fields) (zone : List Char) : List Char :=
  zeroPadded 4 fields.date.year.toNat ++ '-' :: (zeroPadded 2 fields.date.month ++
    '-' :: (zeroPadded 2 fields.date.day ++ 'T' :: (zeroPadded 2 fields.hour ++
      ':' :: (zeroPadded 2 fields.minute ++ ':' :: (zeroPadded 2 fields.second ++
        (fractionText fields.nanos ++ zone))))))

/-- An offset may be written in any way that reads as the offset. -/
theorem parse?_textWith {fields : Fields} (inRange : fields.InRange) {zone : List Char}
    (starts : ∀ c ∈ zone.head?, c ≠ '.' ∧ isDecimalDigit c = false)
    (isZone : offset? zone = some (fields.offset, [])) {stamp : Stamp}
    (isStamp : fields.stamp? = some stamp) : parse? (fields.textWith zone) = some stamp := by
  have step {α β : Type} {read : Option α} {value : α} {next : α → Option β} {result : β}
      (isRead : read = some value) (isNext : next value = some result) :
      read.bind next = some result :=
    Option.bind_eq_some_iff.mpr ⟨value, isRead, isNext⟩
  have two {n : Nat} (small : n < 100) (rest : List Char) :
      fixed? 2 0 (zeroPadded 2 n ++ rest) = some (n, rest) :=
    fixed?_zeroPadded (by decide) small rest
  have year (rest : List Char) : fixed? 4 0 (zeroPadded 4 fields.date.year.toNat ++ rest) =
      some (fields.date.year.toNat, rest) :=
    fixed?_zeroPadded (by decide) (show _ < 10000 by have := inRange.year; omega) rest
  obtain ⟨month, day⟩ : fields.date.month < 100 ∧ fields.date.day < 100 := by
    obtain ⟨-, toDecember, -, toLast⟩ := inRange.date
    unfold monthLength at toLast
    split_ifs at toLast <;> omega
  have hour := Nat.lt_of_le_of_lt inRange.hour (show 23 < 100 by decide)
  have minute := Nat.lt_of_le_of_lt inRange.minute (show 59 < 100 by decide)
  have second := Nat.lt_of_le_of_lt inRange.second (show 60 < 100 by decide)
  have fraction := fraction?_fractionText inRange.nanos starts
  have whole : assemble? ⟨fields.date.year.toNat, fields.date.month, fields.date.day⟩ fields.hour
      fields.minute fields.second fields.nanos fields.offset = some stamp := by
    rw [Int.toNat_of_nonneg inRange.year.1]
    exact isStamp
  exact step (year _) (step rfl (step (two month _) (step rfl (step (two day _) (step rfl
    (step (two hour _) (step rfl (step (two minute _) (step rfl (step (two second _)
      (step fraction (step isZone whole))))))))))))

private theorem parse?_text {fields : Fields} (inRange : fields.InRange) {stamp : Stamp}
    (isStamp : fields.stamp? = some stamp) : parse? fields.text = some stamp :=
  parse?_textWith inRange (zoneText_starts fields.offset) (offset?_zoneText inRange.offset) isStamp

end Fields

/-- The written form of a stamp that was read reads as the same stamp. -/
theorem parse?_stampText {text : List Char} {stamp : Stamp} (isRead : parse? text = some stamp) :
    parse? stamp.text = some stamp := by
  obtain ⟨fields, inRange, isStamp⟩ := Fields.exists_of_parse? isRead
  rw [Fields.text_eq inRange isStamp, Fields.parse?_text inRange isStamp]

-- A leap second keeps its second 60, and the fraction is written in groups of three digits.
example : (parse? "2016-12-31 23:59:60.25-05:30".toList).map Stamp.text =
    some "2016-12-31T23:59:60.250-05:30".toList := by decide

end Rfc3339

end EventConsole.Time
