import StudyHall.Proofs.Text.Lowercase
import StudyHall.Proofs.Text.Pieces

/-!
# Codes and lower case

A code consists of small letters of ASCII. A text names it if, trimmed and with its ASCII capitals
folded, it is the code. When the text is put into lower case first, by the full mapping, letters
from beyond ASCII could come to be letters of a code. Two characters lead there: the Kelvin sign,
which becomes `k`, and U+0130, which becomes `i` with a combining dot after it and so never a letter
alone. All other letters beyond ASCII stay beyond it, by the table. So for a code without `k` the
full mapping makes no difference.

Blanks have no case, and no letter becomes one, so the two ends that trimming cuts off are the same
before and after.

## Main results

* `isBlank_of_mem_lowerAt` — lower-casing keeps blanks and makes none.
* `trimChars_lowerChars` — trimming after lower-casing.
* `lowerAt_of_unshared` — which characters lead to a letter of a code.
* `asciiLower_trim_lowercase_eq_iff` — a code is named by a text exactly if it is named by the text
  in lower case.
-/

namespace StudyHall.Text

/-! ## Blanks -/

/-- The blanks as intervals. -/
def blankIntervals : List (Nat × Nat) :=
  [(9, 13), (0x20, 0x20), (0x85, 0x85), (0xa0, 0xa0), (0x1680, 0x1680), (0x2000, 0x200a),
    (0x2028, 0x2029), (0x202f, 0x202f), (0x205f, 0x205f), (0x3000, 0x3000)]

theorem inIntervals_of_isBlank {c : Char} (blank : isBlank c = true) :
    inIntervals blankIntervals c.toNat = true := by
  simp only [isBlank, Bool.or_eq_true, Bool.and_eq_true, decide_eq_true_eq, beq_iff_eq] at blank
  simp only [inIntervals, blankIntervals, List.any_cons, List.any_nil, Bool.or_false,
    Bool.or_eq_true, Bool.and_eq_true, decide_eq_true_eq]
  omega

/-- Blanks have no case. -/
theorem IsLetter.isBlank_eq_false {c : Char} (letter : IsLetter c.toNat) : isBlank c = false := by
  have apart : tableBits blankIntervals &&& tableBits casedIntervals = 0 := by decide +kernel
  rw [Bool.eq_false_iff]
  intro blank
  have uncased := not_inIntervals_of_disjoint apart (inIntervals_of_isBlank blank)
  rw [letter.cased] at uncased
  cases uncased

theorem SameOrLetters.isBlank_eq {a b : Char} (h : SameOrLetters a b) : isBlank b = isBlank a := by
  rcases h with rfl | ⟨ha, hb⟩
  · rfl
  · rw [ha.isBlank_eq_false, hb.isBlank_eq_false]

/-- Lower-casing keeps blanks and makes none. -/
theorem isBlank_of_mem_lowerAt {before after : List Char} {c d : Char}
    (mem : d ∈ lowerAt before c after) : isBlank d = isBlank c := by
  unfold lowerAt at mem
  split at mem
  · next sigma =>
      rw [sigma, List.mem_singleton.mp mem]
      cases endsWord before after <;> decide
  · unfold lowerChar at mem
    split at mem
    · rw [List.mem_singleton.mp mem]
      exact (sameOrLetters_asciiLowerChar c).isBlank_eq
    · split at mem
      · next dotted =>
          have same : c = 'İ' := by
            rw [← Char.ofNat_toNat c, beq_iff_eq.mp dotted]
          rw [List.mem_cons, List.mem_singleton] at mem
          rcases mem with rfl | rfl
          · rw [same]
            decide
          · rw [same]
            decide
      · rw [List.mem_singleton.mp mem]
        exact (sameOrLetters_simpleLower c).isBlank_eq

/-- Every character has a small form. -/
theorem lowerAt_ne_nil (before : List Char) (c : Char) (after : List Char) :
    lowerAt before c after ≠ [] := by
  obtain ⟨l, ls, small, -⟩ := alike_head_lowerChar c
  have length := length_lowerAt before c after
  intro none
  rw [none, small] at length
  cases length

theorem isBlank_of_mem_lowerBetween {before cs after : List Char} {d : Char}
    (blank : ∀ c ∈ cs, isBlank c = true) (mem : d ∈ lowerBetween before cs after) :
    isBlank d = true := by
  induction cs generalizing before with
  | nil => cases mem
  | cons c cs ih =>
      obtain ⟨first, others⟩ := List.forall_mem_cons.mp blank
      rw [lowerBetween] at mem
      rcases List.mem_append.mp mem with here | later
      · rw [isBlank_of_mem_lowerAt here, first]
      · exact ih others later

theorem lowerBetween_eq_nil_iff {before cs after : List Char} :
    lowerBetween before cs after = [] ↔ cs = [] := by
  cases cs with
  | nil => simp [lowerBetween]
  | cons c cs => simp [lowerBetween, lowerAt_ne_nil]

theorem lowerFrom_eq_lowerBetween (before cs : List Char) :
    lowerFrom before cs = lowerBetween before cs [] := by
  have whole := lowerFrom_append before cs []
  rwa [List.append_nil, lowerFrom, List.append_nil] at whole

theorem Trimmed.lowerBetween {before cs after : List Char} (trimmed : Trimmed cs) :
    Trimmed (lowerBetween before cs after) := by
  refine ⟨?_, ?_⟩
  · intro d mem
    cases cs with
    | nil => cases mem
    | cons c cs =>
        rw [Text.lowerBetween, List.head?_append_of_ne_nil _ (lowerAt_ne_nil _ _ _)] at mem
        rw [isBlank_of_mem_lowerAt (List.mem_of_mem_head? mem)]
        exact trimmed.first c rfl
  · have last := trimmed.last
    clear trimmed
    induction cs generalizing before with
    | nil =>
        intro d mem
        cases mem
    | cons c cs ih =>
        intro d mem
        rw [Text.lowerBetween] at mem
        by_cases more : cs = []
        · subst more
          rw [Text.lowerBetween, List.append_nil] at mem
          rw [isBlank_of_mem_lowerAt (List.mem_of_mem_getLast? mem)]
          exact last c rfl
        · rw [List.getLast?_append_of_ne_nil _ (mt lowerBetween_eq_nil_iff.mp more)] at mem
          refine ih ?_ d mem
          intro e inside
          refine last e ?_
          rwa [List.getLast?_cons_of_ne_nil more]

/-- Trimming leaves of a text in lower case what it leaves of the text, in lower case as it stands
there. -/
theorem trimChars_lowerChars (cs : List Char) :
    ∃ before after, trimChars (lowerChars cs) = lowerBetween before (trimChars cs) after := by
  obtain ⟨before, after, whole, front, back, trimmed⟩ := exists_blanks_around cs
  refine ⟨before.reverse, after, ?_⟩
  have parts : lowerChars cs
      = lowerBetween [] before (trimChars cs ++ after)
        ++ lowerBetween before.reverse (trimChars cs) after
        ++ lowerBetween ((trimChars cs).reverse ++ before.reverse) after [] := by
    conv => lhs; rw [whole]
    rw [lowerChars, List.append_assoc before, lowerFrom_append, lowerFrom_append,
      List.append_nil, lowerFrom_eq_lowerBetween, List.append_assoc]
  rw [parts]
  exact trimChars_append (fun _ => isBlank_of_mem_lowerBetween front) trimmed.lowerBetween
    (fun _ => isBlank_of_mem_lowerBetween back)

/-! ## Letters of codes -/

/-- A small letter of ASCII that no letter beyond ASCII has as its small form. -/
def IsUnshared (c : Char) : Prop :=
  'a' ≤ c ∧ c ≤ 'z' ∧ c ≠ 'k'

instance (c : Char) : Decidable (IsUnshared c) := by
  unfold IsUnshared
  infer_instance

theorem asciiLowerChar_of_large {c : Char} (large : 0x5b ≤ c.toNat) : asciiLowerChar c = c := by
  unfold asciiLowerChar
  rw [if_neg]
  intro capital
  have last : c.toNat ≤ 0x5a := capital.2
  omega

theorem asciiLowerChar_asciiLowerChar (c : Char) :
    asciiLowerChar (asciiLowerChar c) = asciiLowerChar c := by
  by_cases capital : 'A' ≤ c ∧ c ≤ 'Z'
  · have first : 0x41 ≤ c.toNat := capital.1
    have last : c.toNat ≤ 0x5a := capital.2
    have small : asciiLowerChar c = Char.ofNat (c.toNat + 32) := if_pos capital
    have valid : (c.toNat + 32).isValidChar := .inl (by omega)
    apply asciiLowerChar_of_large
    rw [small, toNat_ofNat_of_valid valid]
    omega
  · have same : asciiLowerChar c = c := if_neg capital
    rw [same, same]

/-- A character that becomes a letter of a code by folding ASCII is in ASCII. -/
theorem toNat_lt_of_unshared {c : Char} (unshared : IsUnshared (asciiLowerChar c)) :
    c.toNat < 0x80 := by
  by_contra large
  rw [asciiLowerChar_of_large (by omega)] at unshared
  have last : c.toNat ≤ 0x7a := unshared.2.1
  omega

theorem lowerAt_of_ascii {before after : List Char} {c : Char} (ascii : c.toNat < 0x80) :
    lowerAt before c after = [asciiLowerChar c] := by
  have other : c ≠ 'Σ' := by
    rintro rfl
    exact absurd ascii (by decide)
  unfold lowerAt lowerChar
  rw [if_neg other, if_pos ascii]

/-- The small letter of a capital beyond ASCII lies beyond ASCII, or the capital is the Kelvin
sign. -/
theorem small_beyond_or_k {r : CaseRun} (mem : r ∈ caseRuns) {n : Nat}
    (covered : r.covers n = true) (beyond : 0x80 ≤ n) : 0x80 ≤ r.small n ∨ r.small n = 0x6b := by
  have table : ∀ r ∈ caseRuns,
      ∀ n ∈ List.range' r.first ((r.last - r.first) / r.step + 1) r.step,
        0x80 ≤ n → 0x80 ≤ r.small n ∨ r.small n = 0x6b := by decide +kernel
  exact table r mem n (CaseRun.mem_range_of_covers covered) beyond

theorem not_unshared_of_beyond {c : Char} (beyond : 0x80 ≤ c.toNat) :
    ¬ IsUnshared (asciiLowerChar c) := by
  intro unshared
  have ascii := toNat_lt_of_unshared unshared
  omega

theorem not_unshared_simpleLower {c : Char} (beyond : 0x80 ≤ c.toNat) :
    ¬ IsUnshared (asciiLowerChar (simpleLower c)) := by
  unfold simpleLower
  split
  · next r found =>
      show ¬ IsUnshared (asciiLowerChar (Char.ofNat (r.small c.toNat)))
      have mem := List.mem_of_find?_eq_some found
      have covered := List.find?_some found
      have valid := (IsLetter.small_of_covers mem covered).valid
      rcases small_beyond_or_k mem covered beyond with large | kelvin
      · rw [← toNat_ofNat_of_valid valid] at large
        exact not_unshared_of_beyond large
      · rw [kelvin]
        decide
  · exact not_unshared_of_beyond beyond

/-- No character beyond ASCII leads to letters of codes alone. -/
theorem lowerAt_of_unshared {before after : List Char} {c : Char}
    (unshared : ∀ d ∈ lowerAt before c after, IsUnshared (asciiLowerChar d)) :
    lowerAt before c after = [asciiLowerChar c] := by
  by_cases ascii : c.toNat < 0x80
  · exact lowerAt_of_ascii ascii
  · have beyond : 0x80 ≤ c.toNat := by omega
    exfalso
    unfold lowerAt at unshared
    by_cases sigma : c = 'Σ'
    · rw [if_pos sigma] at unshared
      refine not_unshared_of_beyond ?_ (unshared _ List.mem_cons_self)
      cases endsWord before after <;> decide
    · rw [if_neg sigma, lowerChar, if_neg ascii] at unshared
      by_cases dotted : (c.toNat == 0x130) = true
      · -- The dot above, the second of the two characters, is no letter.
        rw [if_pos dotted] at unshared
        have dot := unshared (Char.ofNat 0x307) (by simp)
        exact not_unshared_of_beyond (by decide) dot
      · rw [if_neg dotted] at unshared
        exact not_unshared_simpleLower beyond (unshared _ List.mem_cons_self)

/-- A text in lower case, with ASCII folded, is a run of letters of codes exactly if the text
itself, with ASCII folded, is that run. -/
theorem map_lowerBetween_eq_iff {before cs after letters : List Char}
    (unshared : ∀ d ∈ letters, IsUnshared d) :
    (lowerBetween before cs after).map asciiLowerChar = letters
      ↔ cs.map asciiLowerChar = letters := by
  induction cs generalizing before letters with
  | nil => simp only [lowerBetween]
  | cons c cs ih =>
      rw [lowerBetween, List.map_append, List.map_cons]
      constructor
      · rintro rfl
        obtain ⟨here, later⟩ := List.forall_mem_append.mp unshared
        have single := lowerAt_of_unshared (List.forall_mem_map.mp here)
        rw [single, (ih later).mp rfl, List.map_singleton, asciiLowerChar_asciiLowerChar,
          List.singleton_append]
      · rintro rfl
        obtain ⟨here, later⟩ := List.forall_mem_cons.mp unshared
        rw [lowerAt_of_ascii (toNat_lt_of_unshared here), (ih later).mpr rfl, List.map_singleton,
          asciiLowerChar_asciiLowerChar, List.singleton_append]

/-- A text names a code exactly if it does so in lower case. -/
theorem asciiLower_trim_lowercase_eq_iff {s code : String}
    (unshared : ∀ d ∈ code.toList, IsUnshared d) :
    asciiLower (trim (lowercase s)) = code ↔ asciiLower (trim s) = code := by
  obtain ⟨before, after, lowered⟩ := trimChars_lowerChars s.toList
  have named (cs : List Char) :
      asciiLower (String.ofList cs) = code ↔ cs.map asciiLowerChar = code.toList := by
    rw [asciiLower, String.toList_ofList, ← String.toList_inj, String.toList_ofList]
  rw [trim, trim, lowercase, String.toList_ofList, lowered, named, named,
    map_lowerBetween_eq_iff unshared]

end StudyHall.Text
