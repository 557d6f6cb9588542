import StudyHall.Calendar.Timestamp
import StudyHall.Proofs.Calendar.Date
import StudyHall.Proofs.Text.Numeral

/-!
# Timestamps read back

The lenient reader gives back every instant from its written form, whatever its year, its fraction
and whether it lies in an inserted second. The reader goes through the parts in order; every lemma
about one part leaves the rest of the characters open.

## Main results

* `takeNumber?_spells` — a run of digits ends where they end, or where no more are taken.
* `takeYear?_yearDigits`, `takePart?_fixedDigits`, `takeOptionalFraction?_of_isFraction` — the parts
  of a timestamp.
* `Instant.ofChars?_partsChars` — the fields that are read from written parts.
* `Instant.names_fieldsIn` — the fields of an instant name it, in every zone.
* `Instant.parse?_toText` — reading undoes writing.
-/

namespace StudyHall

open Calendar Text

namespace Calendar

variable {rest : List Char}

/-! ## Digits and what is skipped -/

theorem isBlank_of_isDigit {c : Char} (h : isDigit c = true) : isBlank c = false := by
  simp only [isDigit, Bool.and_eq_true, decide_eq_true_eq, Char.le_def,
    UInt32.le_iff_toNat_le] at h
  have low : 48 ≤ c.toNat := h.1
  have high : c.toNat ≤ 57 := h.2
  simp [isBlank]
  omega

theorem skipBlanks_cons {c : Char} (h : isBlank c = false) :
    skipBlanks (c :: rest) = c :: rest := by
  simp [skipBlanks, h]

/-- There are no blanks in front of digits. -/
theorem skipBlanks_spells {ds : List Char} {n : Nat} (h : Spells ds n) :
    skipBlanks (ds ++ rest) = ds ++ rest := by
  obtain ⟨d, ds, rfl⟩ := List.exists_cons_of_ne_nil h.nonempty
  exact skipBlanks_cons (isBlank_of_isDigit (h.digits d List.mem_cons_self))

/-- A run of digits ends where they end, or where no more of them are taken. -/
theorem takeNumber?_spells {ds : List Char} {n most : Nat} (h : Spells ds n)
    (enough : ds.length ≤ most)
    (after : (rest.take (most - ds.length)).takeWhile isDigit = []) :
    takeNumber? most (ds ++ rest) = some (n, rest) := by
  have run : ((ds ++ rest).take most).takeWhile isDigit = ds := by
    rw [List.take_append, List.take_of_length_le enough, List.takeWhile_append_of_pos h.digits,
      after, List.append_nil]
  have given : ds.isEmpty = false := by simpa using h.nonempty
  have value : valueOf ds = n := h.value
  unfold takeNumber?
  rw [run]
  simp [given, value]

/-! ## Parts -/

/-- Two digits are a part, whatever follows them. -/
theorem takePart?_fixedDigits {n : Nat} (h : n < 100) :
    takePart? (fixedDigits 2 n ++ rest) = some (n, rest) := by
  have spelt : Spells (fixedDigits 2 n) n := spells_fixedDigits (by decide) h
  unfold takePart?
  rw [skipBlanks_spells spelt]
  exact takeNumber?_spells spelt (by simp) (by simp)

/-- What begins with a digit has no sign. -/
theorem takeYear?_of_digit {d : Char} (cs : List Char) (h : isDigit d = true) :
    takeYear? (d :: cs) = (takeNumber? 4 (d :: cs)).map fun p => ((p.1 : Int), p.2) := by
  unfold takeYear?
  rw [skipBlanks_cons (isBlank_of_isDigit h)]
  split
  · next eq =>
      cases eq
      cases h
  · next eq =>
      cases eq
      cases h
  · rfl

theorem takeNumber?_paddedDigits (n : Nat) :
    takeNumber? (paddedDigits 4 n ++ '-' :: rest).length (paddedDigits 4 n ++ '-' :: rest)
      = some (n, '-' :: rest) := by
  refine takeNumber?_spells (spells_paddedDigits 4 n) (by simp) ?_
  obtain ⟨k, hk⟩ : ∃ k, (paddedDigits 4 n ++ '-' :: rest).length - (paddedDigits 4 n).length
      = k + 1 := ⟨rest.length, by simp⟩
  rw [hk, List.take_succ_cons]
  rfl

theorem takeYear?_minus (n : Nat) :
    takeYear? ('-' :: (paddedDigits 4 n ++ '-' :: rest)) = some (-(n : Int), '-' :: rest) := by
  unfold takeYear?
  rw [skipBlanks_cons (by decide)]
  simp only [takeNumber?_paddedDigits, Option.map_some]

theorem takeYear?_plus (n : Nat) :
    takeYear? ('+' :: (paddedDigits 4 n ++ '-' :: rest)) = some ((n : Int), '-' :: rest) := by
  unfold takeYear?
  rw [skipBlanks_cons (by decide)]
  simp only [takeNumber?_paddedDigits, Option.map_some]

/-- A year of four digits needs no sign: the reader takes no more than four. -/
theorem takeYear?_fixedDigits {n : Nat} (h : n < 10000) :
    takeYear? (fixedDigits 4 n ++ '-' :: rest) = some ((n : Int), '-' :: rest) := by
  have spelt : Spells (fixedDigits 4 n) n := spells_fixedDigits (by decide) h
  have read : takeNumber? 4 (fixedDigits 4 n ++ '-' :: rest) = some (n, '-' :: rest) :=
    takeNumber?_spells spelt (by simp) (by simp)
  obtain ⟨d, ds, eq⟩ := List.exists_cons_of_ne_nil spelt.nonempty
  have digit : isDigit d = true := spelt.digits d (by rw [eq]; exact List.mem_cons_self)
  rw [eq, List.cons_append] at read ⊢
  rw [takeYear?_of_digit _ digit, read, Option.map_some]

/-- A year is read back with its sign. -/
theorem takeYear?_yearDigits (y : Int) :
    takeYear? (yearDigits y ++ '-' :: rest) = some (y, '-' :: rest) := by
  unfold yearDigits
  by_cases plain : 0 ≤ y ∧ y ≤ 9999
  · rw [if_pos plain, takeYear?_fixedDigits (by omega), Int.toNat_of_nonneg plain.1]
  · rw [if_neg plain, List.cons_append]
    by_cases negative : y < 0
    · rw [if_pos negative, takeYear?_minus, Int.ofNat_natAbs_of_nonpos (by omega), Int.neg_neg]
    · rw [if_neg negative, takeYear?_plus, Int.natAbs_of_nonneg (by omega)]

/-- A fraction of a second in nanoseconds: nothing, or a point and digits, of which the first nine
count. -/
inductive IsFraction : List Char → Nat → Prop
  | whole : IsFraction [] 0
  | point {ds : List Char} {n : Nat} (digits : ∀ c ∈ ds, isDigit c = true)
      (leading : Spells (ds.take 9) n) :
      IsFraction ('.' :: ds) (n * 10 ^ (9 - (ds.take 9).length))

/-- A fraction is taken up to a character that cannot belong to it. -/
theorem takeOptionalFraction?_of_isFraction {ds : List Char} {n : Nat}
    (fraction : IsFraction ds n) {c : Char} (noDigit : isDigit c = false) (noPoint : c ≠ '.') :
    takeOptionalFraction? (ds ++ c :: rest) = some (n, c :: rest) := by
  cases fraction with
  | whole =>
      unfold takeOptionalFraction?
      split
      · next eq =>
          rw [List.nil_append, List.cons.injEq] at eq
          exact absurd eq.1 noPoint
      · rfl
  | @point ds n digits leading =>
      have run : (ds ++ c :: rest).takeWhile isDigit = ds := by
        rw [List.takeWhile_append_of_pos digits, List.takeWhile_cons_of_neg (by simp [noDigit]),
          List.append_nil]
      have given : ds.isEmpty = false := by simpa using leading.nonempty
      have value : valueOf (ds.take 9) = n := leading.value
      have point : takeOptionalFraction? ('.' :: ds ++ c :: rest)
          = takeFraction? (ds ++ c :: rest) := rfl
      rw [point]
      unfold takeFraction?
      rw [run]
      simp only [given, value, List.drop_left]
      rfl

/-- A fraction of a second in so many places. -/
def placesChars (places nanos : Nat) : List Char :=
  if places = 0 then [] else '.' :: fixedDigits places (nanos / 10 ^ (9 - places))

/-- A fraction that is exact in so many places is written in them. -/
theorem isFraction_placesChars {places nanos : Nat} (few : places ≤ 9) (small : nanos < 1000000000)
    (exact : nanos % 10 ^ (9 - places) = 0) : IsFraction (placesChars places nanos) nanos := by
  unfold placesChars
  by_cases none : places = 0
  · subst none
    have zero : nanos = 0 := by
      have whole : nanos % 1000000000 = 0 := exact
      omega
    rw [zero]
    exact .whole
  · have power : 10 ^ places * 10 ^ (9 - places) = 1000000000 := by
      rw [← Nat.pow_add, Nat.add_sub_cancel' few]
    have fits : nanos / 10 ^ (9 - places) < 10 ^ places :=
      Nat.div_lt_of_lt_mul (by rwa [Nat.mul_comm, power])
    have spelt := spells_fixedDigits (Nat.pos_of_ne_zero none) fits
    have all : (fixedDigits places (nanos / 10 ^ (9 - places))).take 9
        = fixedDigits places (nanos / 10 ^ (9 - places)) :=
      List.take_of_length_le (by rwa [length_fixedDigits])
    have point := IsFraction.point spelt.digits (by rwa [all])
    rw [all, length_fixedDigits, Nat.div_mul_cancel (Nat.dvd_of_mod_eq_zero exact)] at point
    rwa [if_neg none]

/-- The fewest places that are exact are three at a time. -/
theorem isFraction_fractionDigits {nanos : Nat} (small : nanos < 1000000000) :
    IsFraction (fractionDigits nanos) nanos := by
  unfold fractionDigits
  split
  · next none =>
      subst none
      exact .whole
  · split
    · next millis => exact isFraction_placesChars (by decide : 3 ≤ 9) small millis
    · split
      · next micros => exact isFraction_placesChars (by decide : 6 ≤ 9) small micros
      · have nine := isFraction_placesChars (by decide : 9 ≤ 9) small (Nat.mod_one nanos)
        have all : placesChars 9 nanos = '.' :: fixedDigits 9 (nanos / 1) := rfl
        rwa [all, Nat.div_one] at nine

end Calendar

/-! ## Fields -/

/-- Fields name an instant: the date exists, the time of day does, too, with an inserted second as
the sixtieth of its minute, the zone is less than a day away, and the instant is what they come to
in UTC. -/
structure Calendar.Fields.Names (f : Fields) (t : Instant) : Prop where
  date : f.date.isValid = true
  hour : f.hour ≤ 23
  minute : f.minute ≤ 59
  second : f.second ≤ 60
  zone : f.zone.natAbs < 1440
  seconds : t.seconds = secondsPerDay * f.date.toDay
    + (3600 * f.hour + 60 * f.minute + min f.second 59 : Nat) - 60 * f.zone
  nanos : t.nanos = f.nanos + if f.second = 60 then 1000000000 else 0

namespace Instant

/-! ## The whole timestamp -/

/-- The written parts of a timestamp, each in its place. -/
def partsChars (f : Fields) : List Char :=
  f.date.toChars ++ 'T' :: fixedDigits 2 f.hour ++ ':' :: fixedDigits 2 f.minute
    ++ ':' :: fixedDigits 2 f.second ++ fractionDigits f.nanos ++ ['Z']

theorem bind_of_some {α β : Type} {x : Option α} {f : α → Option β} {a : α} (h : x = some a) :
    (x >>= f) = f a := by
  rw [h]
  rfl

/-- The reader finds the fields that were written, if none has more digits than its place. -/
theorem ofChars?_partsChars {f : Fields} (month : f.date.month < 100) (day : f.date.day < 100)
    (hour : f.hour < 100) (minute : f.minute < 100) (second : f.second < 100)
    (nanos : f.nanos < 1000000000) (zone : f.zone = 0) :
    ofChars? (partsChars f) = f.instant? := by
  have written : partsChars f
      = yearDigits f.date.year ++ '-' :: (fixedDigits 2 f.date.month ++ '-'
        :: (fixedDigits 2 f.date.day ++ 'T' :: (fixedDigits 2 f.hour ++ ':'
          :: (fixedDigits 2 f.minute ++ ':' :: (fixedDigits 2 f.second
            ++ (fractionDigits f.nanos ++ ['Z'])))))) := by
    simp only [partsChars, Date.toChars, List.append_assoc, List.cons_append]
  have hyphen (rest : List Char) : skip? (· == '-') (skipBlanks ('-' :: rest)) = some rest := by
    rw [skipBlanks_cons (by decide)]
    rfl
  have colon (rest : List Char) : skip? (· == ':') (skipBlanks (':' :: rest)) = some rest := by
    rw [skipBlanks_cons (by decide)]
    rfl
  have fraction : takeOptionalFraction? (fractionDigits f.nanos ++ ['Z']) = some (f.nanos, ['Z']) :=
    takeOptionalFraction?_of_isFraction (isFraction_fractionDigits nanos) (by decide) (by decide)
  have utc : takeLooseZone? (skipBlanks ['Z']) = some (0, []) := rfl
  have fields : (⟨f.date, f.hour, f.minute, f.second, f.nanos, 0⟩ : Fields) = f := by
    rw [← zone]
  rw [written]
  refine (bind_of_some (takeYear?_yearDigits f.date.year)).trans ?_
  refine (bind_of_some (hyphen _)).trans ?_
  refine (bind_of_some (takePart?_fixedDigits month)).trans ?_
  refine (bind_of_some (hyphen _)).trans ?_
  refine (bind_of_some (takePart?_fixedDigits day)).trans ?_
  refine (bind_of_some rfl).trans ?_
  refine (bind_of_some (takePart?_fixedDigits hour)).trans ?_
  refine (bind_of_some (colon _)).trans ?_
  refine (bind_of_some (takePart?_fixedDigits minute)).trans ?_
  refine (bind_of_some (colon _)).trans ?_
  refine (bind_of_some (takePart?_fixedDigits second)).trans ?_
  refine (bind_of_some fraction).trans ?_
  refine (bind_of_some utc).trans ?_
  exact congrArg Fields.instant? fields

/-- The fields of an instant in UTC; an inserted second is the sixtieth of its minute. -/
def fields (t : Instant) : Fields where
  date := Date.ofDay t.day
  hour := (t.seconds % secondsPerDay).toNat / 3600
  minute := (t.seconds % secondsPerDay).toNat / 60 % 60
  second := (t.seconds % secondsPerDay).toNat % 60 + t.nanos / 1000000000
  nanos := t.nanos % 1000000000
  zone := 0

theorem toChars_eq (t : Instant) : t.toChars = partsChars t.fields := rfl

theorem isValid_iff {s : Int} {n : Nat} :
    isValid s n = true ↔ firstSecond ≤ s ∧ s ≤ lastSecond
      ∧ (n < 1000000000 ∨ n < 2000000000 ∧ s % 60 = 59) := by
  simp [isValid, and_assoc]

/-- The years of the instants are the representable ones. -/
theorem year_bounds (t : Instant) :
    -262143 ≤ (Date.ofDay t.day).year ∧ (Date.ofDay t.day).year ≤ 262142 := by
  obtain ⟨first, last, -⟩ := isValid_iff.mp t.valid
  have start : daysBefore (-262143) = firstSecond / secondsPerDay + epochDay := by decide
  have stop : daysBefore (262142 + 1) = lastSecond / secondsPerDay + 1 + epochDay := by decide
  unfold firstSecond secondsPerDay at start
  unfold lastSecond secondsPerDay at stop
  unfold firstSecond at first
  unfold lastSecond at last
  have number : t.day = t.seconds / 86400 := rfl
  exact yearOf_bounds (by omega) (by omega)

theorem of?_self (t : Instant) : of? t.seconds t.nanos = some t := by
  unfold of?
  rw [dif_pos t.valid]

theorem of?_eq_some_iff {seconds : Int} {nanos : Nat} {t : Instant} :
    of? seconds nanos = some t ↔ t.seconds = seconds ∧ t.nanos = nanos := by
  constructor
  · intro found
    unfold of? at found
    split at found
    · cases found
      exact ⟨rfl, rfl⟩
    · cases found
  · rintro ⟨rfl, rfl⟩
    exact t.of?_self

/-- Fields of a year that is not too far away are turned into the instant that they name. -/
theorem instant?_eq_some_iff {f : Fields} {t : Instant} (first : -262143 ≤ f.date.year)
    (last : f.date.year ≤ 262142) : f.instant? = some t ↔ f.Names t := by
  unfold Fields.instant?
  rw [Option.ite_none_right_eq_some, of?_eq_some_iff]
  simp only [Bool.and_eq_true, decide_eq_true_eq]
  constructor
  · rintro ⟨⟨⟨⟨⟨⟨⟨date, -⟩, -⟩, hour⟩, minute⟩, second⟩, zone⟩, seconds, nanos⟩
    exact ⟨date, hour, minute, second, zone, seconds, nanos⟩
  · intro names
    exact ⟨⟨⟨⟨⟨⟨⟨names.date, first⟩, last⟩, names.hour⟩, names.minute⟩, names.second⟩,
      names.zone⟩, names.seconds, names.nanos⟩

/-- The fields of an instant in a zone. -/
def fieldsIn (t : Instant) (east : Int) : Fields where
  date := Date.ofDay ((t.seconds + 60 * east) / secondsPerDay)
  hour := ((t.seconds + 60 * east) % secondsPerDay).toNat / 3600
  minute := ((t.seconds + 60 * east) % secondsPerDay).toNat / 60 % 60
  second := ((t.seconds + 60 * east) % secondsPerDay).toNat % 60 + t.nanos / 1000000000
  nanos := t.nanos % 1000000000
  zone := east

/-- The fields of an instant in a zone name it: the zone is counted in whole minutes, so that an
inserted second is the sixtieth of a minute everywhere. -/
theorem names_fieldsIn (t : Instant) {east : Int} (zone : east.natAbs < 1440) :
    (t.fieldsIn east).Names t := by
  obtain ⟨-, -, inserted⟩ := isValid_iff.mp t.valid
  have number : (t.fieldsIn east).date.toDay = (t.seconds + 60 * east) / 86400 :=
    Date.toDay_ofDay _
  have hour : (t.fieldsIn east).hour = ((t.seconds + 60 * east) % 86400).toNat / 3600 := rfl
  have minute : (t.fieldsIn east).minute
      = ((t.seconds + 60 * east) % 86400).toNat / 60 % 60 := rfl
  have second : (t.fieldsIn east).second
      = ((t.seconds + 60 * east) % 86400).toNat % 60 + t.nanos / 1000000000 := rfl
  have nanos : (t.fieldsIn east).nanos = t.nanos % 1000000000 := rfl
  have away : (t.fieldsIn east).zone = east := rfl
  have inMinute : ((t.seconds + 60 * east) % 86400).toNat % 60 = (t.seconds % 60).toNat := by omega
  refine ⟨Date.isValid_ofDay _, by omega, by omega, by omega, zone, ?_, ?_⟩
  · unfold secondsPerDay
    omega
  · by_cases plain : t.nanos < 1000000000
    · rw [if_neg (by omega)]
      omega
    · rw [if_pos (by omega)]
      omega

theorem fields_eq (t : Instant) : t.fields = t.fieldsIn 0 := by
  simp only [fields, fieldsIn, day, Int.mul_zero, Int.add_zero]

theorem names_fields (t : Instant) : t.fields.Names t := by
  rw [fields_eq]
  exact t.names_fieldsIn (by decide)

/-- Reading undoes writing. -/
theorem parse?_toText (t : Instant) : parse? t.toText = some t := by
  have names := t.names_fields
  have hour := names.hour
  have minute := names.minute
  have second := names.second
  obtain ⟨first, last⟩ := t.year_bounds
  obtain ⟨month, day⟩ := Date.month_day_lt names.date
  have nanos : t.fields.nanos < 1000000000 := Nat.mod_lt _ (by decide)
  unfold parse? toText
  rw [String.toList_ofList, toChars_eq, ofChars?_partsChars month day (by omega) (by omega)
    (by omega) nanos rfl]
  exact (instant?_eq_some_iff first last).mpr names

end Instant

end StudyHall
