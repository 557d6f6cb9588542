import StudyHall.Proofs.Text.CodeCase

/-!
# Texts in lower case

A text in lower case stays as it is when it is put into lower case again. Of single characters this
is a fact about the table: no small letter is the capital of another one. It carries over to texts
because no capital sigma is left, and the capital sigma is the only character whose small form
depends on where it stands. So a text is in lower case exactly if each of its characters is, and
nothing has to be known of its words.

Nor are there blanks in the lower case of a text that were not in it before.

## Main results

* `isSmall_of_mem_lowerAt` — small forms are their own small forms.
* `lowerChars_eq_self_iff` — which texts are in lower case.
* `mem_of_mem_lowerFrom_of_isBlank` — the blanks of a text in lower case.
* `lowercase_lowercase` — lower-casing a second time changes nothing.
-/

namespace StudyHall.Text

/-! ## Capitals -/

/-- A code point whose small form is another one. -/
def IsCapital (n : Nat) : Prop :=
  n = 0x130 ∨ ∃ r ∈ caseRuns, r.covers n = true

/-- The capitals of a run. -/
def CaseRun.capitals (r : CaseRun) : List Nat :=
  List.range' r.first ((r.last - r.first) / r.step + 1) r.step

/-- Every capital. -/
def runCapitals : List Nat :=
  0x130 :: caseRuns.flatMap CaseRun.capitals

/-- Every small letter that a run of capitals leads to. -/
def runSmalls : List Nat :=
  caseRuns.flatMap fun r => r.capitals.map r.small

theorem IsCapital.mem {n : Nat} (capital : IsCapital n) : n ∈ runCapitals := by
  rcases capital with rfl | ⟨r, mem, covered⟩
  · exact List.mem_cons_self
  · exact List.mem_cons_of_mem _
      (List.mem_flatMap.mpr ⟨r, mem, CaseRun.mem_range_of_covers covered⟩)

theorem inIntervals_points {ns : List Nat} {n : Nat} :
    inIntervals (ns.map fun m => (m, m)) n = true ↔ n ∈ ns := by
  simp [inIntervals, ← Nat.le_antisymm_iff]

/-- The comparison of the two sides of the table, each as one number. -/
theorem runSmalls_bits :
    tableBits (runSmalls.map fun n => (n, n)) &&& tableBits (runCapitals.map fun n => (n, n))
      = 0 := by
  decide +kernel

/-- A small letter is not the capital of another one. -/
theorem not_isCapital_small {r : CaseRun} (mem : r ∈ caseRuns) {n : Nat}
    (covered : r.covers n = true) : ¬ IsCapital (r.small n) := by
  intro capital
  have small : r.small n ∈ runSmalls := List.mem_flatMap.mpr
    ⟨r, mem, List.mem_map_of_mem (CaseRun.mem_range_of_covers covered)⟩
  have other := not_inIntervals_of_disjoint runSmalls_bits (inIntervals_points.mpr small)
  rw [inIntervals_points.mpr capital.mem] at other
  cases other

/-! ## Characters that are their own small form -/

/-- A character that is its own small form. -/
def IsSmall (c : Char) : Prop :=
  lowerChar c = [c]

instance (c : Char) : Decidable (IsSmall c) :=
  inferInstanceAs (Decidable (lowerChar c = [c]))

theorem IsSmall.of_ascii {c : Char} (ascii : c.toNat < 0x80) (folded : asciiLowerChar c = c) :
    IsSmall c := by
  rw [IsSmall, lowerChar, if_pos ascii, folded]

theorem IsSmall.of_not_capital {c : Char} (other : ¬ IsCapital c.toNat) : IsSmall c := by
  by_cases ascii : c.toNat < 0x80
  · refine .of_ascii ascii (if_neg fun capital => other (.inr ?_))
    have first : 0x41 ≤ c.toNat := capital.1
    have last : c.toNat ≤ 0x5a := capital.2
    refine ⟨⟨0x41, 0x5a, 1, 32⟩, List.mem_cons_self, ?_⟩
    simp [CaseRun.covers, first, last, Nat.mod_one]
  · have undotted : ¬ (c.toNat == 0x130) = true := fun dotted => other (.inl (beq_iff_eq.mp dotted))
    rw [IsSmall, lowerChar, if_neg ascii, if_neg undotted, simpleLower]
    split
    · next r found =>
        have covered := List.find?_some found
        exact absurd (.inr ⟨r, List.mem_of_find?_eq_some found, covered⟩) other
    · rfl

theorem isSmall_asciiLowerChar {c : Char} (ascii : c.toNat < 0x80) :
    IsSmall (asciiLowerChar c) := by
  refine .of_ascii ?_ (asciiLowerChar_asciiLowerChar c)
  unfold asciiLowerChar
  split
  · next capital =>
      have last : c.toNat ≤ 0x5a := capital.2
      have valid : (c.toNat + 32).isValidChar := .inl (by omega)
      rw [toNat_ofNat_of_valid valid]
      omega
  · exact ascii

theorem isSmall_simpleLower {c : Char} (undotted : c.toNat ≠ 0x130) : IsSmall (simpleLower c) := by
  unfold simpleLower
  split
  · next r found =>
      have mem := List.mem_of_find?_eq_some found
      have covered := List.find?_some found
      refine .of_not_capital ?_
      show ¬ IsCapital (Char.ofNat (r.small c.toNat)).toNat
      rw [toNat_ofNat_of_valid (IsLetter.small_of_covers mem covered).valid]
      exact not_isCapital_small mem covered
  · next uncovered =>
      refine .of_not_capital fun capital => ?_
      rcases capital with dotted | ⟨r, mem, covered⟩
      · exact undotted dotted
      · exact absurd covered (List.find?_eq_none.mp uncovered r mem)

/-- Small forms are their own small forms, wherever they stand. -/
theorem isSmall_of_mem_lowerAt {before after : List Char} {c d : Char}
    (mem : d ∈ lowerAt before c after) : IsSmall d := by
  unfold lowerAt at mem
  split at mem
  · rw [List.mem_singleton.mp mem]
    cases endsWord before after <;> decide +kernel
  · unfold lowerChar at mem
    split at mem
    · next ascii =>
        rw [List.mem_singleton.mp mem]
        exact isSmall_asciiLowerChar ascii
    · split at mem
      · rw [List.mem_cons, List.mem_singleton] at mem
        rcases mem with rfl | rfl <;> decide +kernel
      · next undotted =>
          rw [List.mem_singleton.mp mem]
          exact isSmall_simpleLower fun dotted => undotted (beq_iff_eq.mpr dotted)

/-! ## Texts -/

theorem isSmall_of_mem_lowerFrom {before cs : List Char} {d : Char}
    (mem : d ∈ lowerFrom before cs) : IsSmall d := by
  induction cs generalizing before with
  | nil => cases mem
  | cons c cs ih =>
      rw [lowerFrom_cons] at mem
      rcases List.mem_append.mp mem with here | later
      · exact isSmall_of_mem_lowerAt here
      · exact ih later

theorem lowerAt_of_small {c : Char} (small : IsSmall c) (before after : List Char) :
    lowerAt before c after = [c] := by
  have other : c ≠ 'Σ' := by
    rintro rfl
    exact absurd small (by decide +kernel)
  rw [lowerAt, if_neg other]
  exact small

theorem lowerFrom_of_small {cs : List Char} (small : ∀ c ∈ cs, IsSmall c) (before : List Char) :
    lowerFrom before cs = cs := by
  induction cs generalizing before with
  | nil => rfl
  | cons c cs ih =>
      obtain ⟨first, others⟩ := List.forall_mem_cons.mp small
      rw [lowerFrom_cons, lowerAt_of_small first, ih others, List.singleton_append]

/-- A text is in lower case exactly if each of its characters is its own small form. -/
theorem lowerChars_eq_self_iff {cs : List Char} : lowerChars cs = cs ↔ ∀ c ∈ cs, IsSmall c := by
  constructor
  · intro same c mem
    rw [← same] at mem
    exact isSmall_of_mem_lowerFrom mem
  · intro small
    exact lowerFrom_of_small small []

theorem lowercase_lowercase (s : String) : lowercase (lowercase s) = lowercase s := by
  have small : ∀ c ∈ lowerChars s.toList, IsSmall c := fun _ => isSmall_of_mem_lowerFrom
  rw [lowercase, lowercase, String.toList_ofList, lowerChars_eq_self_iff.mpr small]

/-! ## Blanks -/

theorem isSmall_of_isBlank {c : Char} (blank : isBlank c = true) : IsSmall c := by
  refine .of_not_capital fun capital => ?_
  rcases capital with dotted | ⟨r, mem, covered⟩
  · have same : c = 'İ' := by rw [← Char.ofNat_toNat c, dotted]
    rw [same] at blank
    exact absurd blank (by decide)
  · rw [(IsLetter.of_covers mem covered).isBlank_eq_false] at blank
    cases blank

/-- What is blank in the lower case of a text stands in the text. -/
theorem mem_of_mem_lowerFrom_of_isBlank {before cs : List Char} {d : Char}
    (blank : isBlank d = true) (mem : d ∈ lowerFrom before cs) : d ∈ cs := by
  induction cs generalizing before with
  | nil => cases mem
  | cons c cs ih =>
      rw [lowerFrom_cons] at mem
      rcases List.mem_append.mp mem with here | later
      · have kept : isBlank c = true := by rw [← isBlank_of_mem_lowerAt here, blank]
        rw [lowerAt_of_small (isSmall_of_isBlank kept), List.mem_singleton] at here
        exact List.mem_cons.mpr (.inl here)
      · exact List.mem_cons_of_mem c (ih later)

end StudyHall.Text
