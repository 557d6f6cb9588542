import Mathlib.Data.List.Forall2
import Mathlib.Data.List.TakeWhile
import StudyHall.Proofs.Text.CaseTable

/-!
# Lower-casing and what stands around

One character has no small form of its own: the capital sigma becomes `ς` where it ends a word and
`σ` everywhere else. So lower-casing is no function of single characters, and two habits that are
safe for every other letter are not safe for it. A part of a text, put into lower case, need not
occur in the whole text in lower case; and two texts whose characters have the same small forms one
by one need not have the same lower case. Here both are said exactly: the first fails where the cut
takes the end of a word away from a sigma or makes one, the second where a capital sigma at the end
of a word stands against a small one.

## Main results

* `lowerFrom_append` — the lower case of a text is put together from its parts in their places.
* `lowerBetween_eq_iff` — a text has the same lower case in two places exactly if each capital
  sigma in it ends a word in both or in neither.
* `lowerBetween_eq_lowerChars_iff` — the same for a text in its place and alone, with the two ways
  in which a cut can turn a sigma.
* `lowercase_eq_iff` — when texts of the same letters have the same lower case.
-/

namespace StudyHall.Text

/-! ## The ends of words -/

/-- Whether a capital sigma between two texts ends a word. The text before it is given from its end
backwards. -/
def endsWord (before after : List Char) : Bool :=
  meetsCased before && !meetsCased after

section Words

variable {xs ys : List Char}

theorem meetsCased_append_of_skipped (skipped : xs.all isCaseIgnorable = true) :
    meetsCased (xs ++ ys) = meetsCased ys := by
  have nothing : xs.dropWhile isCaseIgnorable = [] :=
    List.dropWhile_eq_nil_iff.mpr (List.all_eq_true.mp skipped)
  simp only [meetsCased, List.dropWhile_append, nothing, List.isEmpty_nil, if_true]

theorem meetsCased_append_of_kept (kept : xs.all isCaseIgnorable = false) :
    meetsCased (xs ++ ys) = meetsCased xs := by
  obtain ⟨c, cs, some⟩ : ∃ c cs, xs.dropWhile isCaseIgnorable = c :: cs := by
    refine List.exists_cons_of_ne_nil fun nothing => ?_
    rw [List.all_eq_true.mpr (List.dropWhile_eq_nil_iff.mp nothing)] at kept
    cases kept
  simp only [meetsCased, List.dropWhile_append, some, List.isEmpty_cons, Bool.false_eq_true,
    if_false, List.cons_append]

theorem meetsCased_of_skipped (skipped : xs.all isCaseIgnorable = true) :
    meetsCased xs = false := by
  have alone := @meetsCased_append_of_skipped xs [] skipped
  rwa [List.append_nil] at alone

end Words

/-! ## One character in its place -/

/-- The small form of a character between two texts. -/
def lowerAt (before : List Char) (c : Char) (after : List Char) : List Char :=
  if c = 'Σ' then [if endsWord before after then 'ς' else 'σ'] else lowerChar c

theorem lowerChar_sigma : lowerChar 'Σ' = ['σ'] := by
  decide +kernel

theorem length_lowerAt (before : List Char) (c : Char) (after : List Char) :
    (lowerAt before c after).length = (lowerChar c).length := by
  unfold lowerAt
  split
  · next sigma => rw [sigma, lowerChar_sigma, List.length_singleton, List.length_singleton]
  · rfl

/-- The small forms of characters that count as one letter are of one length, so they can be told
apart from what follows them. -/
theorem lowerAt_append_inj {before before' after after' xs ys : List Char} {a b : Char}
    (same : lowerChar a = lowerChar b) :
    lowerAt before a after ++ xs = lowerAt before' b after' ++ ys ↔
      lowerAt before a after = lowerAt before' b after' ∧ xs = ys := by
  refine ⟨fun eq => List.append_inj eq ?_, fun ⟨head, tail⟩ => congrArg₂ _ head tail⟩
  rw [length_lowerAt, length_lowerAt, same]

theorem lowerFrom_cons (before : List Char) (c : Char) (cs : List Char) :
    lowerFrom before (c :: cs) = lowerAt before c cs ++ lowerFrom (c :: before) cs := by
  have sigma : c = 'Σ' ↔ c.toNat = 0x3a3 := by
    rw [← Char.toNat_inj]
    rfl
  simp only [lowerFrom, lowerAt, endsWord, sigma, beq_iff_eq]
  rfl

/-- Two places give a character the same small form, unless it is a capital sigma that ends a word
in just one of them. -/
theorem lowerAt_eq_iff {before before' after after' : List Char} {c : Char} :
    lowerAt before c after = lowerAt before' c after' ↔
      (c = 'Σ' → endsWord before after = endsWord before' after') := by
  unfold lowerAt
  by_cases sigma : c = 'Σ'
  · simp only [sigma, if_true, forall_const]
    cases endsWord before after <;> cases endsWord before' after' <;> decide
  · simp only [sigma, if_false, false_implies]

/-! ## A text in its place -/

/-- A text in lower case as it stands between two texts. -/
def lowerBetween (before : List Char) : List Char → List Char → List Char
  | [], _ => []
  | c :: cs, after => lowerAt before c (cs ++ after) ++ lowerBetween (c :: before) cs after

theorem lowerFrom_append (before xs ys : List Char) :
    lowerFrom before (xs ++ ys)
      = lowerBetween before xs ys ++ lowerFrom (xs.reverse ++ before) ys := by
  induction xs generalizing before with
  | nil => rfl
  | cons c cs ih =>
      rw [List.cons_append, lowerFrom_cons, ih, lowerBetween, List.append_assoc,
        List.reverse_cons, List.append_assoc, List.singleton_append]

theorem lowerBetween_nil (cs : List Char) : lowerBetween [] cs [] = lowerChars cs := by
  have whole := lowerFrom_append [] cs []
  rw [List.append_nil, lowerFrom, List.append_nil] at whole
  exact whole.symm

/-- The lower case of a whole holds that of each part as it stands there. -/
theorem lowerBetween_isInfix (before cs after : List Char) :
    lowerBetween before.reverse cs after <:+: lowerChars (before ++ cs ++ after) := by
  refine ⟨lowerBetween [] before (cs ++ after),
    lowerFrom (cs.reverse ++ (before.reverse ++ [])) after, ?_⟩
  rw [lowerChars, List.append_assoc before, lowerFrom_append, lowerFrom_append,
    List.append_nil, List.append_assoc]

theorem lowerBetween_eq_iff {before before' cs after after' : List Char} :
    lowerBetween before cs after = lowerBetween before' cs after' ↔
      ∀ i, cs[i]? = some 'Σ' →
        endsWord ((cs.take i).reverse ++ before) (cs.drop (i + 1) ++ after)
          = endsWord ((cs.take i).reverse ++ before') (cs.drop (i + 1) ++ after') := by
  induction cs generalizing before before' with
  | nil => simp [lowerBetween]
  | cons c cs ih =>
      rw [lowerBetween, lowerBetween, lowerAt_append_inj rfl, lowerAt_eq_iff, ih]
      constructor
      · rintro ⟨head, tail⟩ i sigma
        cases i with
        | zero => exact head (Option.some.inj sigma)
        | succ i => simpa using tail i sigma
      · intro every
        refine ⟨fun sigma => every 0 (congrArg some sigma), fun i sigma => ?_⟩
        simpa using every (i + 1) sigma

/-! ## A text in its place and alone -/

/-- A text is cut out of a longer one so that a capital sigma at its edge changes its small form.
Either it is the last letter of the text and ends a word there, but the word goes on in the longer
text; or it is the first letter of the text and so ends no word there, but it ends one that has
begun before. -/
inductive TurnsSigma (before cs after : List Char) : Prop
  | last {i : Nat} (sigma : cs[i]? = some 'Σ') (word : meetsCased (cs.take i).reverse = true)
      (marks : (cs.drop (i + 1)).all isCaseIgnorable = true) (goesOn : meetsCased after = true)
  | first {i : Nat} (sigma : cs[i]? = some 'Σ') (marks : (cs.take i).all isCaseIgnorable = true)
      (word : meetsCased before.reverse = true)
      (ends : meetsCased (cs.drop (i + 1) ++ after) = false)

/-- What stands around two texts changes the end of a word between them in two ways only. -/
theorem endsWord_append_ne_iff {before after left right : List Char} :
    endsWord (before ++ left) (after ++ right) ≠ endsWord before after ↔
      (meetsCased before = true ∧ after.all isCaseIgnorable = true ∧ meetsCased right = true)
        ∨ (before.all isCaseIgnorable = true ∧ meetsCased left = true
            ∧ meetsCased (after ++ right) = false) := by
  unfold endsWord
  cases skippedBefore : before.all isCaseIgnorable with
  | false =>
      rw [meetsCased_append_of_kept skippedBefore]
      cases skippedAfter : after.all isCaseIgnorable with
      | false => simp [meetsCased_append_of_kept skippedAfter]
      | true =>
          simp [meetsCased_append_of_skipped skippedAfter, meetsCased_of_skipped skippedAfter]
  | true => simp [meetsCased_append_of_skipped skippedBefore, meetsCased_of_skipped skippedBefore]

theorem lowerBetween_eq_lowerChars_iff {before cs after : List Char} :
    lowerBetween before.reverse cs after = lowerChars cs ↔ ¬ TurnsSigma before cs after := by
  rw [← lowerBetween_nil, lowerBetween_eq_iff]
  constructor
  · intro same turns
    cases turns with
    | @last i sigma word marks goesOn =>
        have alone := same i sigma
        rw [List.append_nil, List.append_nil] at alone
        exact endsWord_append_ne_iff.mpr (.inl ⟨word, marks, goesOn⟩) alone
    | @first i sigma marks word ends =>
        have alone := same i sigma
        rw [List.append_nil, List.append_nil] at alone
        rw [← List.all_reverse] at marks
        exact endsWord_append_ne_iff.mpr (.inr ⟨marks, word, ends⟩) alone
  · intro keeps i sigma
    by_contra differs
    rw [List.append_nil, List.append_nil] at differs
    rcases endsWord_append_ne_iff.mp differs with ⟨word, marks, goesOn⟩ | ⟨marks, word, ends⟩
    · exact keeps (.last sigma word marks goesOn)
    · exact keeps (.first sigma (by rwa [List.all_reverse] at marks) word ends)

/-! ## Texts of the same letters -/

/-- Two texts have the same small forms, character by character and each taken alone. -/
def SameLetters (xs ys : List Char) : Prop :=
  List.Forall₂ (fun a b => lowerChar a = lowerChar b) xs ys

/-- At some place one of two texts has a capital sigma and the other one has not, and a sigma there
ends a word. -/
def SigmaApart (xs ys : List Char) : Prop :=
  ∃ i, (xs[i]? = some 'Σ' ↔ ys[i]? ≠ some 'Σ')
    ∧ endsWord (xs.take i).reverse (xs.drop (i + 1)) = true

theorem meetsCased_congr {xs ys : List Char} (same : SameLetters xs ys) :
    meetsCased xs = meetsCased ys := by
  induction same with
  | nil => rfl
  | @cons a b xs ys head tail ih =>
      have alike := alike_of_lowerChar_eq head
      unfold meetsCased at ih ⊢
      rw [List.dropWhile_cons, List.dropWhile_cons, ← alike.ignorable]
      cases isCaseIgnorable a with
      | true => exact ih
      | false => exact alike.cased

/-- A character and one with the same small form, in places that end words alike. -/
theorem lowerAt_congr_iff {before before' after after' : List Char} {a b : Char}
    (same : lowerChar a = lowerChar b)
    (places : endsWord before after = endsWord before' after') :
    lowerAt before a after = lowerAt before' b after' ↔
      ¬ ((a = 'Σ' ↔ b ≠ 'Σ') ∧ endsWord before after = true) := by
  unfold lowerAt
  rw [← places]
  by_cases sigmaA : a = 'Σ'
  · by_cases sigmaB : b = 'Σ'
    · simp [sigmaA, sigmaB]
    · have small : lowerChar b = ['σ'] := by rw [← same, sigmaA, lowerChar_sigma]
      cases endsWord before after <;> simp [sigmaA, sigmaB, small]
  · by_cases sigmaB : b = 'Σ'
    · have small : lowerChar a = ['σ'] := by rw [same, sigmaB, lowerChar_sigma]
      cases endsWord before after <;> simp [sigmaA, sigmaB, small]
    · simp [sigmaA, sigmaB, same]

/-- Texts of the same letters after texts of the same letters. -/
theorem lowerFrom_congr_iff {before before' xs ys : List Char}
    (context : SameLetters before before') (same : SameLetters xs ys) :
    lowerFrom before xs = lowerFrom before' ys ↔
      ∀ i, ¬ ((xs[i]? = some 'Σ' ↔ ys[i]? ≠ some 'Σ')
        ∧ endsWord ((xs.take i).reverse ++ before) (xs.drop (i + 1)) = true) := by
  induction same generalizing before before' with
  | nil => simp [lowerFrom]
  | @cons a b xs ys head tail ih =>
      have places : endsWord before xs = endsWord before' ys := by
        rw [endsWord, endsWord, meetsCased_congr context, meetsCased_congr tail]
      rw [lowerFrom_cons, lowerFrom_cons, lowerAt_append_inj head, lowerAt_congr_iff head places,
        ih (.cons head context)]
      constructor
      · rintro ⟨first, later⟩ i
        cases i with
        | zero => simpa using first
        | succ i => simpa using later i
      · intro every
        exact ⟨by simpa using every 0, fun i => by simpa using every (i + 1)⟩

/-- Texts of the same letters differ in lower case exactly where a capital sigma at the end of a
word stands against a small one. -/
theorem lowercase_eq_iff {x y : String} (same : SameLetters x.toList y.toList) :
    lowercase x = lowercase y ↔ ¬ SigmaApart x.toList y.toList := by
  have texts : lowercase x = lowercase y ↔ lowerFrom [] x.toList = lowerFrom [] y.toList :=
    ⟨fun eq => String.ofList_injective eq, congrArg String.ofList⟩
  rw [texts, lowerFrom_congr_iff .nil same, SigmaApart, not_exists]
  simp only [List.append_nil]

end StudyHall.Text
