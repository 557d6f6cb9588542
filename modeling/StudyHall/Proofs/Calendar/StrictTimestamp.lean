import StudyHall.Proofs.Calendar.Timestamp

/-!
# Timestamps after RFC 3339

The strict reader accepts one grammar and nothing else: every part has a fixed number of digits, the
fraction as many as one likes, and the zone is `Z` or a distance from UTC. The reader takes the
parts from the front, so there is one lemma for each part that says when it is taken and what is
left. Only the fraction has no end of its own: it ends where the zone begins.

A text names the local date and time of day; the instant is what these are in UTC. Written in the
zone of any distance up to 23:59, an instant is read back, over the bounds of days, months and
years, and also if it lies in an inserted second.

## Main results

* `takeExactly?_eq_some_iff`, `takeZone?_eq_some_iff`, … — the parts of a timestamp.
* `Instant.parseStrict?_eq_some_iff` — what is read as an instant.
* `Instant.denotes_localChars` — every instant is denoted by its text in every zone.
-/

namespace StudyHall

open Calendar Text

namespace Calendar

variable {cs rest : List Char} {n : Nat}

/-! ## Digits in fixed places -/

/-- A number in a fixed number of digits. -/
structure Places (width : Nat) (cs : List Char) (n : Nat) : Prop where
  width : cs.length = width
  spells : Spells cs n

theorem places_fixedDigits {width : Nat} (positive : 0 < width) (fits : n < 10 ^ width) :
    Places width (fixedDigits width n) n :=
  ⟨length_fixedDigits width n, spells_fixedDigits positive fits⟩

theorem takeExactly?_eq_some_iff {width : Nat} (positive : 0 < width) :
    takeExactly? width cs = some (n, rest) ↔ ∃ ds, cs = ds ++ rest ∧ Places width ds n := by
  unfold takeExactly?
  constructor
  · intro taken
    simp only [Option.ite_none_right_eq_some, Option.some.injEq, Prod.mk.injEq] at taken
    obtain ⟨enough, value, rfl⟩ := taken
    have short : (cs.take width).length ≤ width := List.length_take_le width cs
    have whole : (cs.take width).takeWhile isDigit = cs.take width :=
      (List.takeWhile_prefix isDigit).eq_of_length_le (by rw [enough]; exact short)
    rw [whole] at enough value
    refine ⟨cs.take width, (List.take_append_drop width cs).symm, enough, ?_, ?_, value⟩
    · rintro none
      rw [none, List.length_nil] at enough
      omega
    · intro c mem
      rw [← whole] at mem
      exact List.all_eq_true.mp List.all_takeWhile c mem
  · rintro ⟨ds, rfl, places, spelt⟩
    have front : (ds ++ rest).take width = ds := List.take_left' places
    have run : ds.takeWhile isDigit = ds := by
      simpa using @List.takeWhile_append_of_pos _ isDigit ds [] spelt.digits
    have value : valueOf ds = n := spelt.value
    rw [front, run, if_pos places, value, List.drop_left' places]

theorem skip?_eq_some_iff {p : Char → Bool} :
    skip? p cs = some rest ↔ ∃ c, cs = c :: rest ∧ p c = true := by
  cases cs with
  | nil => simp [skip?]
  | cons c cs =>
      simp only [skip?, Option.ite_none_right_eq_some, Option.some.injEq, List.cons.injEq]
      constructor
      · rintro ⟨here, rfl⟩
        exact ⟨c, ⟨rfl, rfl⟩, here⟩
      · rintro ⟨d, ⟨rfl, rfl⟩, here⟩
        exact ⟨here, rfl⟩

/-! ## Fractions -/

theorem isFraction_of_take (taken : takeOptionalFraction? cs = some (n, rest)) :
    ∃ ds, cs = ds ++ rest ∧ IsFraction ds n := by
  unfold takeOptionalFraction? at taken
  split at taken
  · next cs =>
      unfold takeFraction? at taken
      simp only [Option.ite_none_left_eq_some, Option.some.injEq, Prod.mk.injEq] at taken
      obtain ⟨given, rfl, rfl⟩ := taken
      have digits : ∀ c ∈ cs.takeWhile isDigit, isDigit c = true :=
        List.all_eq_true.mp List.all_takeWhile
      have whole : cs.takeWhile isDigit ++ cs.drop (cs.takeWhile isDigit).length = cs :=
        List.prefix_iff_eq_append.mp (List.takeWhile_prefix isDigit)
      refine ⟨'.' :: cs.takeWhile isDigit, ?_, .point digits ⟨?_, ?_, rfl⟩⟩
      · rw [List.cons_append, whole]
      · simpa using given
      · exact fun c mem => digits c (List.mem_of_mem_take mem)
  · cases taken
    exact ⟨[], rfl, .whole⟩

/-! ## Zones -/

/-- A zone in minutes east of UTC: a letter for UTC itself, or hours and minutes behind a sign. -/
inductive IsZone : List Char → Int → Prop
  | utc {letter : Char} (isUtc : letter = 'Z' ∨ letter = 'z') : IsZone [letter] 0
  | east {hs ms : List Char} {h m : Nat} (hours : Places 2 hs h) (minutes : Places 2 ms m)
      (inHour : m ≤ 59) : IsZone ('+' :: (hs ++ ':' :: ms)) (60 * h + m)
  | west {minus : Char} (isMinus : minus = '-' ∨ minus = '\u2212') {hs ms : List Char} {h m : Nat}
      (hours : Places 2 hs h) (minutes : Places 2 ms m) (inHour : m ≤ 59) :
      IsZone (minus :: (hs ++ ':' :: ms)) (-(60 * h + m))

/-- A zone is behind a fraction, so it begins with what cannot belong to one. -/
theorem IsZone.head {east : Int} (zone : IsZone cs east) :
    ∃ c ds, cs = c :: ds ∧ isDigit c = false ∧ c ≠ '.' := by
  cases zone with
  | utc isUtc =>
      rcases isUtc with rfl | rfl <;> exact ⟨_, _, rfl, by decide, by decide⟩
  | east hours minutes inHour => exact ⟨_, _, rfl, by decide, by decide⟩
  | west isMinus hours minutes inHour =>
      rcases isMinus with rfl | rfl <;> exact ⟨_, _, rfl, by decide, by decide⟩

/-- A distance of hours and minutes, as it is read behind its sign. -/
def distance? (west : Bool) (cs : List Char) : Option (Int × List Char) := do
  let (hours, cs) ← takeExactly? 2 cs
  let cs ← skip? (· == ':') cs
  let (minutes, cs) ← takeExactly? 2 cs
  if minutes ≤ 59 then
    let zone : Int := 60 * hours + minutes
    some (if west then -zone else zone, cs)
  else none

theorem distance?_eq_some_iff {west : Bool} {east : Int} :
    distance? west cs = some (east, rest) ↔ ∃ hs ms h m, cs = hs ++ ':' :: ms ++ rest
      ∧ Places 2 hs h ∧ Places 2 ms m ∧ m ≤ 59
      ∧ east = if west then -(60 * (h : Int) + m) else 60 * (h : Int) + m := by
  simp only [distance?, Option.bind_eq_bind, Option.bind_eq_some_iff, Prod.exists,
    takeExactly?_eq_some_iff (show 0 < 2 by decide), skip?_eq_some_iff, beq_iff_eq,
    Option.ite_none_right_eq_some, Option.some.injEq, Prod.mk.injEq]
  constructor
  · rintro ⟨h, _, ⟨hs, rfl, hours⟩, _, ⟨_, rfl, rfl⟩, m, _, ⟨ms, rfl, minutes⟩, inHour, rfl, rfl⟩
    exact ⟨hs, ms, h, m, by simp, hours, minutes, inHour, rfl⟩
  · rintro ⟨hs, ms, h, m, rfl, hours, minutes, inHour, rfl⟩
    exact ⟨h, _, ⟨hs, List.append_assoc _ _ _, hours⟩, _, ⟨_, rfl, rfl⟩, m, _, ⟨ms, rfl, minutes⟩,
      inHour, rfl, rfl⟩

theorem takeZone?_eq_some_iff {east : Int} :
    takeZone? (skip? (· == ':')) cs = some (east, rest)
      ↔ ∃ ds, cs = ds ++ rest ∧ IsZone ds east := by
  constructor
  · intro taken
    unfold takeZone? at taken
    split at taken
    · cases taken
      exact ⟨['Z'], rfl, .utc (.inl rfl)⟩
    · cases taken
      exact ⟨['z'], rfl, .utc (.inr rfl)⟩
    · obtain ⟨⟨west, cs⟩, sign, distance⟩ := Option.bind_eq_some_iff.mp taken
      obtain ⟨hs, ms, h, m, rfl, hours, minutes, inHour, rfl⟩ :=
        distance?_eq_some_iff.mp distance
      unfold takeSign? at sign
      split at sign <;> cases sign
      · exact ⟨'+' :: (hs ++ ':' :: ms), rfl, .east hours minutes inHour⟩
      · exact ⟨'-' :: (hs ++ ':' :: ms), rfl, .west (.inl rfl) hours minutes inHour⟩
      · exact ⟨'\u2212' :: (hs ++ ':' :: ms), rfl, .west (.inr rfl) hours minutes inHour⟩
  · rintro ⟨ds, rfl, zone⟩
    have distance {west : Bool} {hs ms : List Char} {h m : Nat} (hours : Places 2 hs h)
        (minutes : Places 2 ms m) (inHour : m ≤ 59) :
        distance? west (hs ++ ':' :: ms ++ rest)
          = some (if west then -(60 * (h : Int) + m) else 60 * (h : Int) + m, rest) :=
      distance?_eq_some_iff.mpr ⟨hs, ms, h, m, rfl, hours, minutes, inHour, rfl⟩
    cases zone with
    | utc isUtc =>
        rcases isUtc with rfl | rfl <;> rfl
    | east hours minutes inHour => exact distance hours minutes inHour
    | west isMinus hours minutes inHour =>
        rcases isMinus with rfl | rfl <;> exact distance hours minutes inHour

end Calendar

/-! ## Fields -/

/-- The fields that are written in a text, each in its place. -/
inductive Calendar.Written : List Char → Fields → Prop
  | parts {year month day hour minute second fraction zone : List Char} {mark : Char}
      {y mo d h mi s n : Nat} {east : Int} (hyear : Places 4 year y) (hmonth : Places 2 month mo)
      (hday : Places 2 day d) (hmark : mark = 'T' ∨ mark = 't' ∨ mark = ' ')
      (hhour : Places 2 hour h) (hminute : Places 2 minute mi) (hsecond : Places 2 second s)
      (hfraction : IsFraction fraction n) (hzone : IsZone zone east) :
      Written (year ++ '-' :: (month ++ '-' :: (day ++ mark :: (hour ++ ':' :: (minute ++ ':'
        :: (second ++ (fraction ++ zone))))))) ⟨⟨y, mo, d⟩, h, mi, s, n, east⟩

namespace Instant

/-- The characters that denote an instant after RFC 3339. -/
def Denotes (cs : List Char) (t : Instant) : Prop :=
  ∃ f, Written cs f ∧ f.Names t

/-- A year of four digits is not too far away. -/
theorem instant?_of_places {ds : List Char} {y : Nat} (places : Places 4 ds y) {f : Fields}
    (year : f.date.year = y) {t : Instant} : f.instant? = some t ↔ f.Names t := by
  have small := places.spells.lt
  rw [places.width] at small
  exact instant?_eq_some_iff (by omega) (by omega)

theorem denotes_of_read {cs : List Char} {t : Instant} (read : ofStrictChars? cs = some t) :
    Denotes cs t := by
  simp only [ofStrictChars?, Option.bind_eq_bind, Option.bind_eq_some_iff, Prod.exists,
    takeExactly?_eq_some_iff (show 0 < 2 by decide),
    takeExactly?_eq_some_iff (show 0 < 4 by decide), skip?_eq_some_iff, takeZone?_eq_some_iff,
    beq_iff_eq, Bool.or_eq_true, Option.ite_none_right_eq_some, List.isEmpty_iff] at read
  obtain ⟨y, _, ⟨year, rfl, hyear⟩, _, ⟨_, rfl, rfl⟩, mo, _, ⟨month, rfl, hmonth⟩, _,
    ⟨_, rfl, rfl⟩, d, _, ⟨day, rfl, hday⟩, _, ⟨mark, rfl, hmark⟩, h, _, ⟨hour, rfl, hhour⟩, _,
    ⟨_, rfl, rfl⟩, mi, _, ⟨minute, rfl, hminute⟩, _, ⟨_, rfl, rfl⟩, s, _, ⟨second, rfl, hsecond⟩,
    n, _, taken, east, _, ⟨zone, rfl, hzone⟩, rfl, named⟩ := read
  obtain ⟨fraction, rfl, hfraction⟩ := isFraction_of_take taken
  rw [List.append_nil]
  exact ⟨_, .parts hyear hmonth hday (or_assoc.mp hmark) hhour hminute hsecond hfraction hzone,
    (instant?_of_places hyear rfl).mp named⟩

theorem read_of_denotes {cs : List Char} {t : Instant} (denotes : Denotes cs t) :
    ofStrictChars? cs = some t := by
  obtain ⟨_, written, names⟩ := denotes
  cases written with
  | @parts year month day hour minute second fraction zone mark y mo d h mi s n east hyear hmonth
      hday hmark hhour hminute hsecond hfraction hzone =>
      have four {ds rest : List Char} {n : Nat} (places : Places 4 ds n) :
          takeExactly? 4 (ds ++ rest) = some (n, rest) :=
        (takeExactly?_eq_some_iff (by decide)).mpr ⟨ds, rfl, places⟩
      have two {ds rest : List Char} {n : Nat} (places : Places 2 ds n) :
          takeExactly? 2 (ds ++ rest) = some (n, rest) :=
        (takeExactly?_eq_some_iff (by decide)).mpr ⟨ds, rfl, places⟩
      have marked (rest : List Char) :
          skip? (fun c => c == 'T' || c == 't' || c == ' ') (mark :: rest) = some rest := by
        refine skip?_eq_some_iff.mpr ⟨mark, rfl, ?_⟩
        rcases hmark with rfl | rfl | rfl <;> rfl
      have cut : takeOptionalFraction? (fraction ++ zone) = some (n, zone) := by
        obtain ⟨c, ds, rfl, noDigit, noPoint⟩ := hzone.head
        exact takeOptionalFraction?_of_isFraction hfraction noDigit noPoint
      have zoned : takeZone? (skip? (· == ':')) zone = some (east, []) :=
        takeZone?_eq_some_iff.mpr ⟨zone, (List.append_nil zone).symm, hzone⟩
      refine (bind_of_some (four hyear)).trans ?_
      refine (bind_of_some rfl).trans ?_
      refine (bind_of_some (two hmonth)).trans ?_
      refine (bind_of_some rfl).trans ?_
      refine (bind_of_some (two hday)).trans ?_
      refine (bind_of_some (marked _)).trans ?_
      refine (bind_of_some (two hhour)).trans ?_
      refine (bind_of_some rfl).trans ?_
      refine (bind_of_some (two hminute)).trans ?_
      refine (bind_of_some rfl).trans ?_
      refine (bind_of_some (two hsecond)).trans ?_
      refine (bind_of_some cut).trans ?_
      refine (bind_of_some zoned).trans ?_
      exact (instant?_of_places hyear rfl).mpr names

theorem Denotes.ne_nil {cs : List Char} {t : Instant} (denotes : Denotes cs t) : cs ≠ [] := by
  rintro rfl
  cases read_of_denotes denotes

/-- The strict reader accepts what denotes an instant after RFC 3339, and nothing else. -/
theorem parseStrict?_eq_some_iff {s : String} {t : Instant} :
    parseStrict? s = some t ↔ Denotes s.toList t :=
  ⟨denotes_of_read, read_of_denotes⟩

end Instant

/-! ## The text of an instant in a zone -/

namespace Calendar

/-- A zone as hours and minutes behind a sign. -/
def zoneChars (east : Int) : List Char :=
  (if east < 0 then '-' else '+')
    :: (fixedDigits 2 (east.natAbs / 60) ++ ':' :: fixedDigits 2 (east.natAbs % 60))

/-- The text of fields with so many places of the fraction. -/
def Fields.toChars (f : Fields) (places : Nat) : List Char :=
  fixedDigits 4 f.date.year.toNat ++ '-' :: (fixedDigits 2 f.date.month
    ++ '-' :: (fixedDigits 2 f.date.day ++ 'T' :: (fixedDigits 2 f.hour
      ++ ':' :: (fixedDigits 2 f.minute ++ ':' :: (fixedDigits 2 f.second
        ++ (placesChars places f.nanos ++ zoneChars f.zone))))))

theorem visible_fixedDigits (width n : Nat) : ∀ c ∈ fixedDigits width n, isBlank c = false := by
  induction width generalizing n with
  | zero => exact fun _ mem => absurd mem List.not_mem_nil
  | succ width ih =>
      unfold fixedDigits
      rw [List.forall_mem_append, List.forall_mem_singleton]
      have last := isDigit_digitChar (Nat.mod_lt n (by decide))
      exact ⟨ih (n / 10), isBlank_of_isDigit last⟩

theorem visible_placesChars (places nanos : Nat) :
    ∀ c ∈ placesChars places nanos, isBlank c = false := by
  unfold placesChars
  split
  · exact fun _ mem => absurd mem List.not_mem_nil
  · exact List.forall_mem_cons.mpr ⟨rfl, visible_fixedDigits _ _⟩

theorem visible_zoneChars (east : Int) : ∀ c ∈ zoneChars east, isBlank c = false := by
  have sign : isBlank (if east < 0 then '-' else '+') = false := by split <;> decide
  simp only [zoneChars, List.forall_mem_cons, List.forall_mem_append]
  exact ⟨sign, visible_fixedDigits _ _, rfl, visible_fixedDigits _ _⟩

/-- There are no blanks in the text of fields. -/
theorem visible_toChars (f : Fields) (places : Nat) :
    ∀ c ∈ f.toChars places, isBlank c = false := by
  have digits (width n : Nat) := visible_fixedDigits width n
  simp only [Fields.toChars, List.forall_mem_cons, List.forall_mem_append]
  exact ⟨digits 4 _, rfl, digits 2 _, rfl, digits 2 _, rfl, digits 2 _, rfl, digits 2 _, rfl,
    digits 2 _, visible_placesChars _ _, visible_zoneChars _⟩

theorem isZone_zoneChars {east : Int} (zone : east.natAbs < 1440) :
    IsZone (zoneChars east) east := by
  have hours : Places 2 (fixedDigits 2 (east.natAbs / 60)) (east.natAbs / 60) :=
    places_fixedDigits (by decide) (by omega)
  have minutes : Places 2 (fixedDigits 2 (east.natAbs % 60)) (east.natAbs % 60) :=
    places_fixedDigits (by decide) (by omega)
  unfold zoneChars
  by_cases negative : east < 0
  · have distance : east = -(60 * ((east.natAbs / 60 : Nat) : Int) + (east.natAbs % 60 : Nat)) := by
      omega
    rw [if_pos negative]
    have west := IsZone.west (.inl rfl) hours minutes (by omega)
    rwa [← distance] at west
  · have distance : east = 60 * ((east.natAbs / 60 : Nat) : Int) + (east.natAbs % 60 : Nat) := by
      omega
    rw [if_neg negative]
    have east := IsZone.east hours minutes (by omega)
    rwa [← distance] at east

/-- Fields are written in their text, if each has room in its place. -/
theorem written_toChars {f : Fields} {places : Nat} (first : 0 ≤ f.date.year)
    (last : f.date.year ≤ 9999) (month : f.date.month < 100) (day : f.date.day < 100)
    (hour : f.hour < 100) (minute : f.minute < 100) (second : f.second < 100)
    (fraction : IsFraction (placesChars places f.nanos) f.nanos) (zone : f.zone.natAbs < 1440) :
    Written (f.toChars places) f := by
  have two {n : Nat} (small : n < 100) : Places 2 (fixedDigits 2 n) n :=
    places_fixedDigits (by decide) small
  have four : Places 4 (fixedDigits 4 f.date.year.toNat) f.date.year.toNat :=
    places_fixedDigits (by decide) (by omega)
  have parts := Written.parts four (two month) (two day) (.inl rfl) (two hour) (two minute)
    (two second) fraction (isZone_zoneChars zone)
  rwa [Int.toNat_of_nonneg first] at parts

end Calendar

namespace Instant

/-- The text of an instant in a zone, with so many places of the fraction. -/
def localChars (t : Instant) (east : Int) (places : Nat) : List Char :=
  (t.fieldsIn east).toChars places

theorem visible_localChars (t : Instant) (east : Int) (places : Nat) :
    ∀ c ∈ t.localChars east places, isBlank c = false :=
  visible_toChars _ _

/-- Every instant is denoted by its text in every zone, if its year there has four digits and its
fraction is written exactly. -/
theorem denotes_localChars (t : Instant) {east : Int} {places : Nat} (zone : east.natAbs < 1440)
    (first : 0 ≤ (t.fieldsIn east).date.year) (last : (t.fieldsIn east).date.year ≤ 9999)
    (few : places ≤ 9) (exact : t.nanos % 10 ^ (9 - places) = 0) :
    Denotes (t.localChars east places) t := by
  have names := t.names_fieldsIn zone
  have inHour := names.minute
  have inMinute := names.second
  obtain ⟨month, day⟩ := Date.month_day_lt names.date
  have inSecond : (t.fieldsIn east).nanos < 1000000000 := Nat.mod_lt _ (by decide)
  have exactHere : (t.fieldsIn east).nanos % 10 ^ (9 - places) = 0 := by
    have divides : 10 ^ (9 - places) ∣ 1000000000 := Nat.pow_dvd_pow 10 (n := 9) (by omega)
    show t.nanos % 1000000000 % 10 ^ (9 - places) = 0
    rwa [Nat.mod_mod_of_dvd _ divides]
  have fraction := isFraction_placesChars few inSecond exactHere
  exact ⟨t.fieldsIn east, written_toChars first last month day
    (Nat.lt_of_le_of_lt names.hour (by decide)) (by omega) (by omega) fraction zone, names⟩

end Instant

end StudyHall
