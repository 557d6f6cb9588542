import StudyHall.Proofs.Metrics.PathLabel

/-!
# Segments that a label keeps

What the two replacements look for need not fill a segment. An identifier is marked wherever it
stands, also with other characters before or after it, and a number is marked when a segment begins
with it, whatever follows. So a segment can be changed that names nothing, and two such segments can
become one.

Here the label of a segment is described without the scan: a text is gone through from the left, an
identifier that begins where one stands becomes the mark, every other character is passed on, and of
the outcome the digits in front, if there are any, become the mark. From this it is read off which
segments stay. A segment with an identifier in it gets shorter by more than the mark of a number
adds, and one that begins with a digit begins with a colon afterwards.

## Main results

* `beginsWith_iff` — where an identifier begins.
* `identifiersMarked_markIdentifiers`, `numberMarked_markNumbersFrom` — the two replacements.
* `segmentLabel_eq_self_iff` — which segments stay as they are.
* `segments_kept_or_marked_within` — what stands in each place of a label.
-/

namespace StudyHall.PathLabel

open Text

/-! ## What is looked for -/

/-- Somewhere in a segment there stands an identifier. -/
def HoldsIdentifier (segment : List Char) : Prop :=
  ∃ id u, Uuid.Hyphenated id u ∧ id <:+: segment

/-- A segment begins with a decimal digit, of any script. -/
def BeginsWithDigit (segment : List Char) : Prop :=
  ∃ c ∈ segment.head?, isDecimalDigit c = true

/-- A text from the left, with the mark in place of each identifier that begins where the one before
it has ended, or later. -/
inductive IdentifiersMarked : List Char → List Char → Prop
  | nil : IdentifiersMarked [] []
  | identifier {id rest marked : List Char} {u : Uuid} (written : Uuid.Hyphenated id u)
      (later : IdentifiersMarked rest marked) : IdentifiersMarked (id ++ rest) (mark ++ marked)
  | other {c : Char} {rest marked : List Char}
      (none : ∀ id u, Uuid.Hyphenated id u → ¬ id <+: c :: rest)
      (later : IdentifiersMarked rest marked) : IdentifiersMarked (c :: rest) (c :: marked)

/-- A text with the mark in place of the digits that it begins with, if there are any. -/
inductive NumberMarked : List Char → List Char → Prop
  | none {w : List Char} (plain : ¬ BeginsWithDigit w) : NumberMarked w w
  | front {digits rest : List Char} (filled : digits ≠ [])
      (number : ∀ c ∈ digits, isDecimalDigit c = true) (ends : ¬ BeginsWithDigit rest) :
      NumberMarked (digits ++ rest) (mark ++ rest)

/-! ## Where an identifier begins -/

theorem beginsWith_append {form w : List Char} (begins : beginsWith form w = true)
    (rest : List Char) : beginsWith form (w ++ rest) = true := by
  induction form generalizing w with
  | nil => simp only [beginsWith]
  | cons f form ih =>
      cases w with
      | nil => cases begins
      | cons c w =>
          rw [beginsWith, Bool.and_eq_true] at begins
          rw [List.cons_append, beginsWith, begins.1, ih begins.2, Bool.true_and]

theorem eq_digits_append_of_beginsWith {n : Nat} {form w : List Char}
    (begins : beginsWith (List.replicate n 'x' ++ form) w = true) :
    ∃ ds rest, w = ds ++ rest ∧ ds.length = n ∧ (∀ c ∈ ds, (Hex.digitValue? c).isSome = true)
      ∧ beginsWith form rest = true := by
  induction n generalizing w with
  | zero => exact ⟨[], w, rfl, rfl, nofun, begins⟩
  | succ n ih =>
      have letter : ('x' : Char) ≠ '-' := by decide
      cases w with
      | nil => cases begins
      | cons c w =>
          rw [List.replicate_succ, List.cons_append, beginsWith, if_neg letter,
            Bool.and_eq_true] at begins
          obtain ⟨ds, rest, rfl, length, digits, later⟩ := ih begins.2
          refine ⟨c :: ds, rest, rfl, congrArg Nat.succ length, ?_, later⟩
          exact List.forall_mem_cons.mpr ⟨begins.1, digits⟩

theorem eq_hyphen_cons_of_beginsWith {form w : List Char}
    (begins : beginsWith ('-' :: form) w = true) :
    ∃ rest, w = '-' :: rest ∧ beginsWith form rest = true := by
  cases w with
  | nil => cases begins
  | cons c w =>
      rw [beginsWith, if_pos rfl, Bool.and_eq_true, beq_iff_eq] at begins
      exact ⟨w, by rw [begins.1], begins.2⟩

/-- Hexadecimal digits have values. -/
theorem exists_digits {cs : List Char} (digits : ∀ c ∈ cs, (Hex.digitValue? c).isSome = true) :
    ∃ ds, Uuid.Digits cs ds := by
  induction cs with
  | nil => exact ⟨[], .nil⟩
  | cons c cs ih =>
      obtain ⟨first, others⟩ := List.forall_mem_cons.mp digits
      obtain ⟨v, value⟩ := Option.isSome_iff_exists.mp first
      obtain ⟨ds, rest⟩ := ih others
      exact ⟨⟨v, Hex.digitValue?_lt value⟩ :: ds, .cons value rest⟩

/-- Characters begin with the form that is looked for exactly if they begin with an identifier. -/
theorem beginsWith_iff {w : List Char} :
    beginsWith identifierForm w = true ↔ ∃ id u, Uuid.Hyphenated id u ∧ id <+: w := by
  constructor
  · intro begins
    have form : identifierForm = List.replicate 8 'x' ++ '-' :: (List.replicate 4 'x' ++ '-'
        :: (List.replicate 4 'x' ++ '-' :: (List.replicate 4 'x' ++ '-'
          :: (List.replicate 12 'x' ++ [])))) := by decide +kernel
    rw [form] at begins
    obtain ⟨a, _, rfl, ha, digitsA, begins⟩ := eq_digits_append_of_beginsWith begins
    obtain ⟨_, rfl, begins⟩ := eq_hyphen_cons_of_beginsWith begins
    obtain ⟨b, _, rfl, hb, digitsB, begins⟩ := eq_digits_append_of_beginsWith begins
    obtain ⟨_, rfl, begins⟩ := eq_hyphen_cons_of_beginsWith begins
    obtain ⟨c, _, rfl, hc, digitsC, begins⟩ := eq_digits_append_of_beginsWith begins
    obtain ⟨_, rfl, begins⟩ := eq_hyphen_cons_of_beginsWith begins
    obtain ⟨d, _, rfl, hd, digitsD, begins⟩ := eq_digits_append_of_beginsWith begins
    obtain ⟨_, rfl, begins⟩ := eq_hyphen_cons_of_beginsWith begins
    obtain ⟨e, rest, rfl, he, digitsE, -⟩ := eq_digits_append_of_beginsWith begins
    have all : ∀ x ∈ a ++ b ++ c ++ d ++ e, (Hex.digitValue? x).isSome = true := by
      intro x mem
      simp only [List.mem_append] at mem
      rcases mem with (((mem | mem) | mem) | mem) | mem
      · exact digitsA x mem
      · exact digitsB x mem
      · exact digitsC x mem
      · exact digitsD x mem
      · exact digitsE x mem
    obtain ⟨ds, digits⟩ := exists_digits all
    have enough : ds.length = 32 := by
      rw [← digits.length]
      simp only [List.length_append]
      omega
    refine ⟨_, ⟨ds, enough⟩, .groups ha hb hc hd digits, rest, ?_⟩
    simp only [List.append_assoc, List.cons_append]
  · rintro ⟨id, u, written, rest, rfl⟩
    exact beginsWith_append (beginsWith_of_hyphenated written) rest

/-! ## The first replacement -/

theorem markIdentifiersFrom_append (w rest : List Char) :
    markIdentifiersFrom w.length (w ++ rest) = markIdentifiersFrom 0 rest := by
  induction w with
  | nil => rfl
  | cons c w ih => exact ih

/-- The search goes on behind an identifier. -/
theorem markIdentifiers_append {id : List Char} {u : Uuid} (written : Uuid.Hyphenated id u)
    (rest : List Char) : markIdentifiers (id ++ rest) = mark ++ markIdentifiers rest := by
  have begins := beginsWith_append (beginsWith_of_hyphenated written) rest
  have length := written.length
  cases id with
  | nil => cases length
  | cons c cs =>
      have others : identifierForm.length - 1 = cs.length := by
        rw [Nat.succ.inj length]
        decide +kernel
      unfold markIdentifiers
      rw [List.cons_append] at begins ⊢
      rw [markIdentifiersFrom_zero_cons, if_pos begins, others, markIdentifiersFrom_append]

/-- By induction on the length, since behind an identifier the search goes on after 36
characters. -/
theorem identifiersMarked_markIdentifiers (w : List Char) :
    IdentifiersMarked w (markIdentifiers w) := by
  cases w with
  | nil => exact .nil
  | cons c cs =>
      by_cases begins : beginsWith identifierForm (c :: cs) = true
      · obtain ⟨id, u, written, rest, whole⟩ := beginsWith_iff.mp begins
        have length := written.length
        have shorter : rest.length < (c :: cs).length := by
          rw [← whole, List.length_append]
          omega
        rw [← whole, markIdentifiers_append written]
        exact .identifier written (identifiersMarked_markIdentifiers rest)
      · have passed : markIdentifiers (c :: cs) = c :: markIdentifiers cs := by
          unfold markIdentifiers
          rw [markIdentifiersFrom_zero_cons, if_neg begins]
        rw [passed]
        refine .other ?_ (identifiersMarked_markIdentifiers cs)
        intro id u written front
        exact begins (beginsWith_iff.mpr ⟨id, u, written, front⟩)
termination_by w.length
decreasing_by
  · exact shorter
  · exact Nat.lt_succ_self cs.length

/-- A text stays as it is, or there is an identifier in it and it gets shorter by 33 characters at
least. -/
theorem IdentifiersMarked.kept_or_shorter {w marked : List Char}
    (made : IdentifiersMarked w marked) :
    (¬ HoldsIdentifier w ∧ marked = w) ∨ (HoldsIdentifier w ∧ marked.length + 33 ≤ w.length) := by
  induction made with
  | nil =>
      refine .inl ⟨?_, rfl⟩
      rintro ⟨id, u, written, within⟩
      have length := written.length
      rw [List.infix_nil.mp within] at length
      cases length
  | @identifier id rest marked u written later ih =>
      have length := written.length
      have three : mark.length = 3 := rfl
      refine .inr ⟨⟨id, u, written, (List.prefix_append id rest).isInfix⟩, ?_⟩
      rw [List.length_append, List.length_append, length, three]
      rcases ih with ⟨-, rfl⟩ | ⟨-, shorter⟩
      · omega
      · omega
  | @other c rest marked none later ih =>
      rcases ih with ⟨absent, rfl⟩ | ⟨⟨id, u, written, within⟩, shorter⟩
      · refine .inl ⟨?_, rfl⟩
        rintro ⟨id, u, written, within⟩
        rcases List.infix_cons_iff.mp within with front | behind
        · exact none id u written front
        · exact absent ⟨id, u, written, behind⟩
      · refine .inr ⟨⟨id, u, written, List.infix_cons within⟩, ?_⟩
        rw [List.length_cons, List.length_cons]
        omega

/-! ## The second replacement -/

theorem beginsWithDigit_cons {c : Char} {w : List Char} :
    BeginsWithDigit (c :: w) ↔ isDecimalDigit c = true := by
  simp [BeginsWithDigit]

theorem not_beginsWithDigit_dropWhile (w : List Char) :
    ¬ BeginsWithDigit (w.dropWhile isDecimalDigit) := by
  rintro ⟨c, first, digit⟩
  have other := List.head?_dropWhile_not isDecimalDigit w
  rw [first] at other
  exact absurd digit (by simpa using other)

theorem written_of_ne {before : Before} {c : Char} (slash : '/' ≠ c)
    (digit : ¬ isDecimalDigit c = true) : written before c = ([c], .other) := by
  unfold written
  rw [if_neg digit, if_neg slash.symm]

/-- Where no slash stands before it, nothing is a number. -/
theorem markNumbersFrom_other {w : List Char} (plain : '/' ∉ w) : markNumbersFrom .other w = w := by
  induction w with
  | nil => rfl
  | cons c w ih =>
      obtain ⟨first, others⟩ := not_or.mp (mt List.mem_cons.mpr plain)
      have kept : written .other c = ([c], .other) := by
        unfold written
        rw [if_neg (Ne.symm first), ite_self]
      rw [markNumbersFrom_cons, kept, ih others, List.singleton_append]

theorem markNumbersFrom_number_eq {w : List Char} (plain : '/' ∉ w) :
    markNumbersFrom .number w = w.dropWhile isDecimalDigit := by
  induction w with
  | nil => rfl
  | cons c w ih =>
      obtain ⟨first, others⟩ := not_or.mp (mt List.mem_cons.mpr plain)
      by_cases digit : isDecimalDigit c = true
      · have passed : written .number c = ([], .number) := if_pos digit
        rw [markNumbersFrom_cons, passed, ih others, List.dropWhile_cons_of_pos digit,
          List.nil_append]
      · rw [markNumbersFrom_cons, written_of_ne first digit, markNumbersFrom_other others,
          List.dropWhile_cons_of_neg digit, List.singleton_append]

/-- Behind a slash the digits in front are a number. -/
theorem numberMarked_markNumbersFrom {w : List Char} (plain : '/' ∉ w) :
    NumberMarked w (markNumbersFrom .slash w) := by
  cases w with
  | nil => exact .none (by rintro ⟨c, first, -⟩; cases first)
  | cons c w =>
      obtain ⟨first, others⟩ := not_or.mp (mt List.mem_cons.mpr plain)
      by_cases digit : isDecimalDigit c = true
      · have marked : written .slash c = (mark, .number) := if_pos digit
        have cut : c :: w = c :: w.takeWhile isDecimalDigit ++ w.dropWhile isDecimalDigit := by
          rw [List.cons_append, List.takeWhile_append_dropWhile]
        rw [markNumbersFrom_cons, marked, markNumbersFrom_number_eq others, cut]
        refine .front (List.cons_ne_nil _ _) ?_ (not_beginsWithDigit_dropWhile w)
        exact List.forall_mem_cons.mpr ⟨digit, List.all_eq_true.mp List.all_takeWhile⟩
      · rw [markNumbersFrom_cons, written_of_ne first digit, markNumbersFrom_other others,
          List.singleton_append]
        exact .none (fun begins => digit (beginsWithDigit_cons.mp begins))

/-- The mark adds at most two characters, and stands in front if it stands for a number. -/
theorem NumberMarked.length_le {w label : List Char} (made : NumberMarked w label) :
    label.length ≤ w.length + 2 := by
  cases made with
  | none plain => omega
  | @front digits rest filled number ends =>
      have some : 0 < digits.length := List.length_pos_of_ne_nil filled
      have three : mark.length = 3 := rfl
      rw [List.length_append, List.length_append, three]
      omega

theorem NumberMarked.eq_self_iff {w label : List Char} (made : NumberMarked w label) :
    label = w ↔ ¬ BeginsWithDigit w := by
  cases made with
  | none plain => exact ⟨fun _ => plain, fun _ => rfl⟩
  | @front digits rest filled number ends =>
      cases digits with
      | nil => exact absurd rfl filled
      | cons c digits =>
          have digit : isDecimalDigit c = true := number c List.mem_cons_self
          have colon : isDecimalDigit ':' = false := by decide +kernel
          constructor
          · intro same
            have head : ':' = c := (List.cons.inj same).1
            rw [← head, colon] at digit
            cases digit
          · intro plain
            exact absurd (beginsWithDigit_cons.mpr digit) plain

/-! ## Segments that stay -/

/-- Nothing in a segment becomes the mark. -/
structure Stays (segment : List Char) : Prop where
  noIdentifier : ¬ HoldsIdentifier segment
  noNumber : ¬ BeginsWithDigit segment

/-- Where an identifier has been marked, no number makes up for what is gone. -/
theorem eq_self_iff_of_marked {w marked label : List Char} (ids : IdentifiersMarked w marked)
    (number : NumberMarked marked label) : label = w ↔ Stays w := by
  rcases ids.kept_or_shorter with ⟨absent, rfl⟩ | ⟨holds, shorter⟩
  · rw [number.eq_self_iff]
    exact ⟨fun plain => ⟨absent, plain⟩, fun stays => stays.noNumber⟩
  · have longest := number.length_le
    constructor
    · intro same
      rw [same] at longest
      omega
    · intro stays
      exact absurd holds stays.noIdentifier

/-- What the label of a segment is made of. -/
theorem numberMarked_segmentLabel {segment : List Char} (plain : '/' ∉ segment) :
    NumberMarked (markIdentifiers segment) (segmentLabel segment) := by
  have unmarked : '/' ∉ mark := by decide
  apply numberMarked_markNumbersFrom
  intro mem
  rcases mem_of_mem_markIdentifiersFrom mem with marked | mem
  · exact unmarked marked
  · exact plain mem

/-- A segment stays as it is exactly if no identifier stands in it and it does not begin with a
digit. -/
theorem segmentLabel_eq_self_iff {segment : List Char} (plain : '/' ∉ segment) :
    segmentLabel segment = segment ↔ Stays segment :=
  eq_self_iff_of_marked (identifiersMarked_markIdentifiers segment)
    (numberMarked_segmentLabel plain)

/-- Where a path has a segment that stays, its label has it too. -/
theorem getElem?_segments_ofPath {p segment : List Char} {i : Nat}
    (here : (segments ('/' :: p))[i]? = some segment) (stays : Stays segment) :
    (segments (ofPath ('/' :: p)).toList)[i]? = some segment := by
  have plain : '/' ∉ segment := notMem_of_mem_pieces (List.mem_of_getElem? here)
  rw [segments_ofPath, List.getElem?_map, here, Option.map_some,
    (segmentLabel_eq_self_iff plain).mpr stays]

/-- In each place of a label stands the segment of the path with its identifiers marked and then the
number in front. That is the segment itself exactly if no identifier stands in it and it does not
begin with a digit. Paths that differ in a place where both have such a segment have different
labels. -/
theorem segments_kept_or_marked_within (p : List Char) :
    List.Forall₂
        (fun segment label =>
          (∃ marked, IdentifiersMarked segment marked ∧ NumberMarked marked label)
            ∧ (label = segment ↔ Stays segment))
        (segments ('/' :: p)) (segments (ofPath ('/' :: p)).toList)
      ∧ ∀ (q : List Char) (i : Nat) (a b : List Char), (segments ('/' :: p))[i]? = some a →
          (segments ('/' :: q))[i]? = some b → a ≠ b → Stays a → Stays b →
          ofPath ('/' :: p) ≠ ofPath ('/' :: q) := by
  constructor
  · rw [segments_ofPath, List.forall₂_map_right_iff, List.forall₂_same]
    intro segment mem
    have plain : '/' ∉ segment := notMem_of_mem_pieces mem
    refine ⟨⟨_, ?_, numberMarked_segmentLabel plain⟩, segmentLabel_eq_self_iff plain⟩
    exact identifiersMarked_markIdentifiers segment
  · intro q i a b hereP hereQ different staysA staysB same
    have inP := getElem?_segments_ofPath hereP staysA
    have inQ := getElem?_segments_ofPath hereQ staysB
    rw [same, inQ] at inP
    exact different (Option.some.inj inP).symm

/-- Two versions of one page, with digits in a segment that does not begin with one. -/
theorem segments_kept_or_marked_within_sample :
    Stays "v1".toList ∧ Stays "v2".toList
      ∧ ofPath ('/' :: "v1/users/7".toList) ≠ ofPath ('/' :: "v2/users/7".toList) := by
  have first : Stays "v1".toList :=
    (segmentLabel_eq_self_iff (by decide +kernel)).mp (by decide +kernel)
  have second : Stays "v2".toList :=
    (segmentLabel_eq_self_iff (by decide +kernel)).mp (by decide +kernel)
  refine ⟨first, second, ?_⟩
  exact (segments_kept_or_marked_within "v1/users/7".toList).2 "v2/users/7".toList 1
    "v1".toList "v2".toList (by decide +kernel) (by decide +kernel) (by decide +kernel) first second

/-- A segment that is no number but begins with one is changed, and the labels of two paths that
differ only there are the same. -/
theorem leading_number_marked :
    ¬ List.Forall₂ (fun segment label => ¬ IsIdentifying segment → label = segment)
        (segments ('/' :: "items/123abc".toList))
        (segments (ofPath ('/' :: "items/123abc".toList)).toList)
      ∧ ofPath ('/' :: "items/123abc".toList) = ofPath ('/' :: "items/456abc".toList) := by
  have given : segments ('/' :: "items/123abc".toList)
      = [[], "items".toList, "123abc".toList] := by decide +kernel
  have label : segments (ofPath ('/' :: "items/123abc".toList)).toList
      = [[], "items".toList, ":idabc".toList] := by decide +kernel
  have names : ¬ IsIdentifying "123abc".toList := by
    rintro (⟨u, written⟩ | ⟨-, digits⟩)
    · have length := written.length
      exact absurd length (by decide +kernel)
    · have letter := digits 'a' (by decide +kernel)
      exact absurd letter (by decide)
  refine ⟨?_, by decide +kernel⟩
  intro kept
  rw [given, label] at kept
  cases kept with
  | cons _ kept =>
      cases kept with
      | cons _ kept =>
          cases kept with
          | cons same _ => exact absurd (same names) (by decide +kernel)

end StudyHall.PathLabel
