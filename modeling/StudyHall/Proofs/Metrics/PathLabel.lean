import Mathlib.Data.List.Forall2
import StudyHall.Metrics.PathLabel
import StudyHall.Proofs.Text.Pieces
import StudyHall.Proofs.UuidForms
import StudyHall.Text.Numeral

/-!
# Labels segment by segment

The two replacements that make a label go over the whole path and know nothing of its segments. They
respect them all the same. An identifier has no slash in it, so no occurrence of one reaches beyond
a segment, and the search starts anew behind every slash; a number is looked for right after a slash
and ends before the next one. So the label of a path is put together from the labels of its
segments, and each of these depends on its segment alone.

A segment that is an identifier or a number as a whole becomes the mark. The mark does not begin
with a digit, and has no slash in it, so the second replacement leaves what the first one has put
in.

## Main results

* `segments_ofPath` — the segments of a label.
* `segmentLabel_of_hyphenated`, `segmentLabel_of_digits` — what becomes the mark.
* `noNumber_markNumbersFrom` — after the second replacement no slash has a digit after it.
* `label_of_same_places` — paths that differ in identifiers and numbers have one label.
-/

namespace StudyHall.PathLabel

open Text

/-- What stands between the slashes of a path. -/
def segments (path : List Char) : List (List Char) :=
  pieces (· == '/') path

/-- A segment that names one thing of many: a hyphenated identifier, or a number. -/
def IsIdentifying (segment : List Char) : Prop :=
  (∃ u, Uuid.Hyphenated segment u) ∨ (segment ≠ [] ∧ ∀ c ∈ segment, isDigit c = true)

/-! ## Identifiers stay within a segment -/

/-- A slash is neither a hyphen nor a digit, so what stands from it on does not help a form. -/
theorem beginsWith_append_slash (form w cs : List Char) :
    beginsWith form (w ++ '/' :: cs) = beginsWith form w := by
  induction form generalizing w with
  | nil => simp only [beginsWith]
  | cons f form ih =>
      cases w with
      | nil =>
          have unfit : (if f = '-' then '/' == '-' else (Hex.digitValue? '/').isSome) = false := by
            split <;> decide
          show ((if f = '-' then '/' == '-' else (Hex.digitValue? '/').isSome)
            && beginsWith form cs) = false
          rw [unfit, Bool.false_and]
      | cons c w => rw [List.cons_append, beginsWith, ih, beginsWith]

theorem length_le_of_beginsWith {form w : List Char} (begins : beginsWith form w = true) :
    form.length ≤ w.length := by
  induction form generalizing w with
  | nil => exact Nat.zero_le _
  | cons f form ih =>
      cases w with
      | nil => cases begins
      | cons c w =>
          rw [beginsWith, Bool.and_eq_true] at begins
          exact Nat.succ_le_succ (ih begins.2)

theorem markIdentifiersFrom_zero_cons (c : Char) (cs : List Char) :
    markIdentifiersFrom 0 (c :: cs)
      = if beginsWith identifierForm (c :: cs) then
          mark ++ markIdentifiersFrom (identifierForm.length - 1) cs
        else c :: markIdentifiersFrom 0 cs := rfl

/-- Behind a slash the search for identifiers starts anew, since the one before it, if there is one,
has ended by then. -/
theorem markIdentifiersFrom_append_slash {rest : Nat} {w : List Char} (ended : rest ≤ w.length)
    (cs : List Char) :
    markIdentifiersFrom rest (w ++ '/' :: cs)
      = markIdentifiersFrom rest w ++ '/' :: markIdentifiersFrom 0 cs := by
  induction w generalizing rest with
  | nil =>
      obtain rfl : rest = 0 := Nat.le_zero.mp ended
      have none : beginsWith identifierForm ('/' :: cs) = false :=
        (beginsWith_append_slash identifierForm [] cs).trans (by decide +kernel)
      rw [List.nil_append, markIdentifiersFrom_zero_cons, none]
      rfl
  | cons c w ih =>
      cases rest with
      | succ n => exact ih (Nat.le_of_succ_le_succ ended)
      | zero =>
          have same := beginsWith_append_slash identifierForm (c :: w) cs
          rw [List.cons_append] at same
          rw [List.cons_append, markIdentifiersFrom_zero_cons, markIdentifiersFrom_zero_cons, same]
          by_cases here : beginsWith identifierForm (c :: w) = true
          · have long := length_le_of_beginsWith here
            rw [List.length_cons] at long
            rw [if_pos here, if_pos here, ih (by omega), List.append_assoc]
          · rw [if_neg here, if_neg here, ih (Nat.zero_le _), List.cons_append]

/-! ## Numbers stay within a segment -/

/-- What is written for a character, and what then stands before the next one. -/
def written (before : Before) (c : Char) : List Char × Before :=
  if isDecimalDigit c then
    match before with
    | .slash => (mark, .number)
    | .number => ([], .number)
    | .other => ([c], .other)
  else ([c], if c = '/' then .slash else .other)

theorem markNumbersFrom_cons (before : Before) (c : Char) (cs : List Char) :
    markNumbersFrom before (c :: cs)
      = (written before c).1 ++ markNumbersFrom (written before c).2 cs := by
  unfold written
  by_cases digit : isDecimalDigit c = true
  · cases before <;> simp [markNumbersFrom, digit]
  · simp [markNumbersFrom, digit]

theorem written_slash (before : Before) : written before '/' = (['/'], .slash) := by
  have plain : isDecimalDigit '/' = false := by decide +kernel
  unfold written
  rw [plain]
  rfl

/-- Behind a slash the search for numbers starts anew. -/
theorem markNumbersFrom_append_slash (before : Before) (w cs : List Char) :
    markNumbersFrom before (w ++ '/' :: cs)
      = markNumbersFrom before w ++ '/' :: markNumbersFrom .slash cs := by
  induction w generalizing before with
  | nil =>
      rw [List.nil_append, markNumbersFrom_cons, written_slash]
      rfl
  | cons c w ih =>
      rw [List.cons_append, markNumbersFrom_cons, ih, markNumbersFrom_cons, List.append_assoc]

/-! ## The label of a segment -/

/-- What is left of a segment in a label. -/
def segmentLabel (segment : List Char) : List Char :=
  markNumbersFrom .slash (markIdentifiers segment)

theorem segmentLabel_append_slash (w cs : List Char) :
    segmentLabel (w ++ '/' :: cs) = segmentLabel w ++ '/' :: segmentLabel cs := by
  unfold segmentLabel markIdentifiers
  rw [markIdentifiersFrom_append_slash (Nat.zero_le _), markNumbersFrom_append_slash]

theorem mem_of_mem_markIdentifiersFrom {rest : Nat} {w : List Char} {c : Char}
    (mem : c ∈ markIdentifiersFrom rest w) : c ∈ mark ∨ c ∈ w := by
  induction w generalizing rest with
  | nil => cases mem
  | cons d w ih =>
      have later (n : Nat) (mem : c ∈ markIdentifiersFrom n w) : c ∈ mark ∨ c ∈ d :: w :=
        (ih mem).imp_right (List.mem_cons_of_mem d)
      cases rest with
      | succ n => exact later n mem
      | zero =>
          rw [markIdentifiersFrom_zero_cons] at mem
          split at mem
          · exact (List.mem_append.mp mem).elim .inl (later _)
          · rcases List.mem_cons.mp mem with rfl | mem
            · exact .inr List.mem_cons_self
            · exact later _ mem

theorem mem_of_mem_markNumbersFrom {before : Before} {w : List Char} {c : Char}
    (mem : c ∈ markNumbersFrom before w) : c ∈ mark ∨ c ∈ w := by
  induction w generalizing before with
  | nil => cases mem
  | cons d w ih =>
      have first (here : c ∈ (written before d).1) : c ∈ mark ∨ c = d := by
        unfold written at here
        split at here
        · cases before with
          | slash => exact .inl here
          | number => cases here
          | other => exact .inr (List.mem_singleton.mp here)
        · exact .inr (List.mem_singleton.mp here)
      rw [markNumbersFrom_cons] at mem
      rcases List.mem_append.mp mem with here | later
      · exact (first here).imp_right fun same => List.mem_cons.mpr (.inl same)
      · exact (ih later).imp_right (List.mem_cons_of_mem d)

/-- No slash is brought in. -/
theorem slash_notMem_segmentLabel {segment : List Char} (plain : '/' ∉ segment) :
    '/' ∉ segmentLabel segment := by
  have unmarked : '/' ∉ mark := by decide
  intro mem
  rcases mem_of_mem_markNumbersFrom mem with marked | mem
  · exact unmarked marked
  · rcases mem_of_mem_markIdentifiersFrom mem with marked | mem
    · exact unmarked marked
    · exact plain mem

/-- The label of a path that begins with a slash. -/
theorem toList_ofPath (rest : List Char) :
    (ofPath ('/' :: rest)).toList = segmentLabel ('/' :: rest) := by
  have other : markNumbersFrom .other ('/' :: markIdentifiers rest)
      = markNumbersFrom .slash ('/' :: markIdentifiers rest) := rfl
  have starts : markIdentifiers ('/' :: rest) = '/' :: markIdentifiers rest :=
    markIdentifiersFrom_append_slash (w := []) (Nat.le_refl 0) rest
  unfold ofPath markNumbers segmentLabel
  rw [String.toList_ofList, starts, other]

/-- The segments of a label are the labels of the segments. -/
theorem segments_ofPath (rest : List Char) :
    segments (ofPath ('/' :: rest)).toList = (segments ('/' :: rest)).map segmentLabel := by
  rw [toList_ofPath]
  exact pieces_of_piecewise segmentLabel_append_slash (fun _ => slash_notMem_segmentLabel) _

/-! ## What becomes the mark -/

theorem isSome_of_mem {cs : List Char} {ds : List (Fin 16)} (digits : Uuid.Digits cs ds) {c : Char}
    (mem : c ∈ cs) : (Hex.digitValue? c).isSome = true := by
  unfold Uuid.Digits at digits
  induction digits with
  | nil => cases mem
  | cons value _ ih =>
      rcases List.mem_cons.mp mem with rfl | mem
      · rw [value]
        rfl
      · exact ih mem

theorem beginsWith_digits {w : List Char} (digits : ∀ c ∈ w, (Hex.digitValue? c).isSome = true)
    (form cs : List Char) :
    beginsWith (List.replicate w.length 'x' ++ form) (w ++ cs) = beginsWith form cs := by
  induction w with
  | nil => rfl
  | cons c w ih =>
      have letter : ('x' : Char) ≠ '-' := by decide
      rw [List.length_cons, List.replicate_succ, List.cons_append, List.cons_append, beginsWith,
        if_neg letter, digits c List.mem_cons_self, Bool.true_and]
      exact ih fun d mem => digits d (List.mem_cons_of_mem c mem)

theorem beginsWith_hyphen (form cs : List Char) :
    beginsWith ('-' :: form) ('-' :: cs) = beginsWith form cs := by
  rw [beginsWith, if_pos rfl, beq_self_eq_true, Bool.true_and]

/-- The hyphenated form of an identifier has the form that is looked for. -/
theorem beginsWith_of_hyphenated {segment : List Char} {u : Uuid}
    (written : Uuid.Hyphenated segment u) : beginsWith identifierForm segment = true := by
  cases written with
  | @groups a b c d e _ ha hb hc hd digits =>
      have he := Uuid.length_lastGroup ha hb hc hd digits
      have all : ∀ x ∈ a ++ b ++ c ++ d ++ e, (Hex.digitValue? x).isSome = true :=
        fun _ => isSome_of_mem digits
      simp only [List.mem_append] at all
      have form : identifierForm = List.replicate a.length 'x' ++ '-'
          :: (List.replicate b.length 'x' ++ '-' :: (List.replicate c.length 'x' ++ '-'
            :: (List.replicate d.length 'x' ++ '-' :: (List.replicate e.length 'x' ++ [])))) := by
        rw [ha, hb, hc, hd, he]
        decide +kernel
      have groups : a ++ '-' :: b ++ '-' :: c ++ '-' :: d ++ '-' :: e
          = a ++ '-' :: (b ++ '-' :: (c ++ '-' :: (d ++ '-' :: (e ++ [])))) := by
        simp only [List.append_assoc, List.cons_append, List.append_nil]
      rw [form, groups]
      rw [beginsWith_digits fun x mem => all x (.inl (.inl (.inl (.inl mem)))), beginsWith_hyphen,
        beginsWith_digits fun x mem => all x (.inl (.inl (.inl (.inr mem)))), beginsWith_hyphen,
        beginsWith_digits fun x mem => all x (.inl (.inl (.inr mem))), beginsWith_hyphen,
        beginsWith_digits fun x mem => all x (.inl (.inr mem)), beginsWith_hyphen,
        beginsWith_digits fun x mem => all x (.inr mem)]
      rfl

/-- The characters that belong to an identifier are passed over. -/
theorem markIdentifiersFrom_length (w : List Char) : markIdentifiersFrom w.length w = [] := by
  induction w with
  | nil => rfl
  | cons c w ih => exact ih

theorem segmentLabel_of_hyphenated {segment : List Char} {u : Uuid}
    (written : Uuid.Hyphenated segment u) : segmentLabel segment = mark := by
  have begins := beginsWith_of_hyphenated written
  have length := written.length
  have marked : markIdentifiers segment = mark := by
    cases segment with
    | nil => cases length
    | cons c cs =>
        have rest : identifierForm.length - 1 = cs.length := by
          rw [Nat.succ.inj length]
          decide +kernel
        unfold markIdentifiers
        rw [markIdentifiersFrom_zero_cons, if_pos begins, rest, markIdentifiersFrom_length,
          List.append_nil]
  unfold segmentLabel
  rw [marked]
  decide +kernel

theorem hyphen_mem_of_beginsWith {form w : List Char} (needed : '-' ∈ form)
    (begins : beginsWith form w = true) : '-' ∈ w := by
  induction form generalizing w with
  | nil => cases needed
  | cons f form ih =>
      cases w with
      | nil => cases begins
      | cons c w =>
          rw [beginsWith, Bool.and_eq_true] at begins
          rcases List.mem_cons.mp needed with rfl | needed
          · rw [if_pos rfl, beq_iff_eq] at begins
            rw [begins.1]
            exact List.mem_cons_self
          · exact List.mem_cons_of_mem c (ih needed begins.2)

/-- Where there is no hyphen there is no identifier. -/
theorem markIdentifiers_of_noHyphen {w : List Char} (plain : '-' ∉ w) : markIdentifiers w = w := by
  have needed : '-' ∈ identifierForm := by decide +kernel
  unfold markIdentifiers
  induction w with
  | nil => rfl
  | cons c w ih =>
      rw [markIdentifiersFrom_zero_cons,
        if_neg fun begins => plain (hyphen_mem_of_beginsWith needed begins),
        ih fun mem => plain (List.mem_cons_of_mem c mem)]

theorem isDecimalDigit_of_isDigit {c : Char} (digit : isDigit c = true) :
    isDecimalDigit c = true := by
  simp only [isDigit, Bool.and_eq_true, decide_eq_true_eq, Char.le_def,
    UInt32.le_iff_toNat_le] at digit
  have low : 0x30 ≤ c.toNat := digit.1
  have high : c.toNat ≤ 0x39 := digit.2
  unfold isDecimalDigit inIntervals decimalDigitIntervals
  rw [List.any_cons]
  simp only [low, high, decide_true, Bool.and_true, Bool.true_or]

/-- A number is written as the mark if a slash stands before it, and what is left of a number that
has begun is passed over. -/
theorem markNumbersFrom_number {w : List Char} (digits : ∀ c ∈ w, isDigit c = true) :
    markNumbersFrom .number w = [] := by
  induction w with
  | nil => rfl
  | cons c w ih =>
      have digit := isDecimalDigit_of_isDigit (digits c List.mem_cons_self)
      have passed : written .number c = ([], .number) := if_pos digit
      rw [markNumbersFrom_cons, passed]
      exact ih fun d mem => digits d (List.mem_cons_of_mem c mem)

theorem segmentLabel_of_digits {segment : List Char} (filled : segment ≠ [])
    (digits : ∀ c ∈ segment, isDigit c = true) : segmentLabel segment = mark := by
  have plain : '-' ∉ segment := fun mem => absurd (digits '-' mem) (by decide)
  unfold segmentLabel
  rw [markIdentifiers_of_noHyphen plain]
  cases segment with
  | nil => exact absurd rfl filled
  | cons c cs =>
      have digit := isDecimalDigit_of_isDigit (digits c List.mem_cons_self)
      have marked : written .slash c = (mark, .number) := if_pos digit
      rw [markNumbersFrom_cons, marked,
        markNumbersFrom_number fun d mem => digits d (List.mem_cons_of_mem c mem), List.append_nil]

theorem IsIdentifying.segmentLabel {segment : List Char} (identifying : IsIdentifying segment) :
    segmentLabel segment = mark := by
  rcases identifying with ⟨u, written⟩ | ⟨filled, digits⟩
  · exact segmentLabel_of_hyphenated written
  · exact segmentLabel_of_digits filled digits

/-! ## Slashes and digits -/

/-- A slash with a digit after it does not reach into the mark. -/
theorem infix_of_infix_mark_append {c : Char} {cs : List Char}
    (within : ['/', c] <:+: mark ++ cs) : ['/', c] <:+: cs := by
  have step {d : Char} {ds : List Char} (other : '/' ≠ d) (within : ['/', c] <:+: d :: ds) :
      ['/', c] <:+: ds := by
    rcases List.infix_cons_iff.mp within with front | later
    · exact absurd (List.cons_prefix_cons.mp front).1 other
    · exact later
  exact step (by decide) (step (by decide) (step (by decide) within))

/-- A number after a slash has become the mark: what is left does not begin with a digit if a slash
stands before it, and there is no digit after a slash within it. -/
theorem noNumber_markNumbersFrom (before : Before) (cs : List Char) :
    (before = .slash → ∀ c ∈ (markNumbersFrom before cs).head?, isDecimalDigit c = false)
      ∧ ∀ c, ['/', c] <:+: markNumbersFrom before cs → isDecimalDigit c = false := by
  induction cs generalizing before with
  | nil =>
      refine ⟨fun _ c first => ?_, fun c within => ?_⟩
      · cases first
      · cases List.infix_nil.mp within
  | cons d cs ih =>
      have colon : isDecimalDigit ':' = false := by decide +kernel
      have passed (next : Before) (after : '/' = d → next = .slash) (c : Char)
          (within : ['/', c] <:+: d :: markNumbersFrom next cs) : isDecimalDigit c = false := by
        rcases List.infix_cons_iff.mp within with front | later
        · obtain ⟨slash, rest⟩ := List.cons_prefix_cons.mp front
          obtain ⟨behind, begins⟩ := rest
          refine (ih next).1 (after slash) c ?_
          rw [← begins]
          rfl
        · exact (ih next).2 c later
      rw [markNumbersFrom_cons]
      unfold written
      by_cases digit : isDecimalDigit d = true
      · rw [if_pos digit]
        cases before with
        | slash =>
            refine ⟨fun _ c first => ?_, fun c within => ?_⟩
            · cases first
              exact colon
            · exact (ih .number).2 c (infix_of_infix_mark_append within)
        | number => exact ⟨nofun, (ih .number).2⟩
        | other =>
            refine ⟨nofun, passed .other fun slash => ?_⟩
            rw [← slash] at digit
            exact absurd digit (by decide +kernel)
      · rw [if_neg digit]
        refine ⟨fun _ c first => ?_, passed _ fun slash => if_pos slash.symm⟩
        cases first
        exact Bool.eq_false_iff.mpr digit

/-! ## Labels of paths -/

/-- Paths with the same number of segments that differ only in places where both have an identifier
or a number have the same label. The label has as many segments as the path, with the mark in every
place of an identifier or a number, and in no place a slash with a digit of any script after it. -/
theorem label_of_same_places {p q : List Char}
    (same : List.Forall₂ (fun a b => a = b ∨ IsIdentifying a ∧ IsIdentifying b)
      (segments ('/' :: p)) (segments ('/' :: q))) :
    ofPath ('/' :: p) = ofPath ('/' :: q)
      ∧ List.Forall₂ (fun segment label => IsIdentifying segment → label = mark)
          (segments ('/' :: p)) (segments (ofPath ('/' :: p)).toList)
      ∧ ∀ c, ['/', c] <:+: (ofPath ('/' :: p)).toList → isDecimalDigit c = false := by
  refine ⟨?label, ?places, ?numbers⟩
  case label =>
    have labels : List.Forall₂ (fun a b => segmentLabel a = segmentLabel b)
        (segments ('/' :: p)) (segments ('/' :: q)) := by
      refine same.imp fun a b alike => ?_
      rcases alike with rfl | ⟨ha, hb⟩
      · rfl
      · rw [ha.segmentLabel, hb.segmentLabel]
    have equal : (segments ('/' :: p)).map segmentLabel
        = (segments ('/' :: q)).map segmentLabel := by
      rw [← List.forall₂_eq_eq_eq, List.forall₂_map_left_iff, List.forall₂_map_right_iff]
      exact labels
    rw [← segments_ofPath, ← segments_ofPath] at equal
    exact String.toList_injective (eq_of_pieces_eq equal)
  case places =>
    rw [segments_ofPath, List.forall₂_map_right_iff, List.forall₂_same]
    exact fun _ _ identifying => identifying.segmentLabel
  case numbers =>
    intro c within
    unfold ofPath markNumbers at within
    rw [String.toList_ofList] at within
    exact (noNumber_markNumbersFrom _ _).2 c within

/-- A page of a user, by identifier in mixed case and by number. -/
theorem label_of_same_places_sample :
    ofPath "/users/550E8400-e29b-41d4-a716-446655440000/page/2".toList
        = ofPath "/users/42/page/007".toList
      ∧ ofPath "/users/42/page/007".toList = "/users/:id/page/:id" := by
  have one : segments ('/' :: "users/550E8400-e29b-41d4-a716-446655440000/page/2".toList)
      = [[], "users".toList, "550E8400-e29b-41d4-a716-446655440000".toList, "page".toList,
          "2".toList] := by decide +kernel
  have other : segments ('/' :: "users/42/page/007".toList)
      = [[], "users".toList, "42".toList, "page".toList, "007".toList] := by decide +kernel
  have identifier : IsIdentifying "550E8400-e29b-41d4-a716-446655440000".toList := by
    obtain ⟨u, read⟩ : ∃ u, Uuid.ofHyphenated? "550E8400-e29b-41d4-a716-446655440000".toList
        = some u := Option.isSome_iff_exists.mp (by decide +kernel)
    exact .inl ⟨u, Uuid.ofHyphenated?_eq_some_iff.mp read⟩
  have number {ds : List Char} (filled : ds ≠ []) (digits : ds.all isDigit = true) :
      IsIdentifying ds := .inr ⟨filled, List.all_eq_true.mp digits⟩
  have user : IsIdentifying "42".toList := number (by decide +kernel) (by decide +kernel)
  have second : IsIdentifying "2".toList := number (by decide +kernel) (by decide +kernel)
  have seventh : IsIdentifying "007".toList := number (by decide +kernel) (by decide +kernel)
  have same : List.Forall₂ (fun a b => a = b ∨ IsIdentifying a ∧ IsIdentifying b)
      (segments ('/' :: "users/550E8400-e29b-41d4-a716-446655440000/page/2".toList))
      (segments ('/' :: "users/42/page/007".toList)) := by
    rw [one, other]
    exact .cons (.inl rfl) (.cons (.inl rfl) (.cons (.inr ⟨identifier, user⟩)
      (.cons (.inl rfl) (.cons (.inr ⟨second, seventh⟩) .nil))))
  obtain ⟨label, -, -⟩ := label_of_same_places same
  exact ⟨label, by decide +kernel⟩

end StudyHall.PathLabel
