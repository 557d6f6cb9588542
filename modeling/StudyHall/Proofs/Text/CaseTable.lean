import Mathlib.Data.Nat.Bitwise
import StudyHall.Text.Lowercase

/-!
# Capitals and their small letters count alike

The end of a word is found by skipping some characters and asking whether the next one has case.
Both questions are answered by tables, and a third table says which small letter a capital has.
That the three fit together is a fact about the data: a capital and its small letter both have case
and are never skipped, so to change the case of letters moves no end of a word.

The tables hold hundreds of intervals, and to compare them interval by interval takes the kernel
minutes. A table is therefore turned into one number with a bit for each code point in it. Then one
bitwise operation compares two tables as a whole.

## Main results

* `testBit_tableBits` — the number of a table has the bits that the table names.
* `IsLetter.of_covers`, `IsLetter.small_of_covers` — what the runs of capitals cover, and what
  they lead to, are letters.
* `alike_of_lowerChar_eq` — characters with the same small form count alike.
-/

namespace StudyHall.Text

/-! ## Tables as numbers -/

/-- The number whose bits are the code points in a table. -/
def tableBits (table : List (Nat × Nat)) : Nat :=
  table.foldr (fun p bits => (1 <<< (p.2 + 1 - p.1) - 1) <<< p.1 ||| bits) 0

theorem testBit_tableBits (table : List (Nat × Nat)) (n : Nat) :
    (tableBits table).testBit n = inIntervals table n := by
  induction table with
  | nil => simp [tableBits, inIntervals]
  | cons p table ih =>
      have interval : ((1 <<< (p.2 + 1 - p.1) - 1) <<< p.1).testBit n
          = (decide (p.1 ≤ n) && decide (n ≤ p.2)) := by
        rw [Nat.one_shiftLeft, Nat.testBit_shiftLeft, Nat.testBit_two_pow_sub_one,
          ← Bool.decide_and, ← Bool.decide_and, decide_eq_decide]
        omega
      have head : tableBits (p :: table)
          = (1 <<< (p.2 + 1 - p.1) - 1) <<< p.1 ||| tableBits table := rfl
      rw [head, Nat.testBit_or, interval, ih]
      rfl

/-- All code points of one table are in another one. -/
theorem inIntervals_of_subset {table others : List (Nat × Nat)}
    (subset : tableBits table &&& tableBits others = tableBits table) {n : Nat}
    (mem : inIntervals table n = true) : inIntervals others n = true := by
  have both := Nat.testBit_and (tableBits table) (tableBits others) n
  rw [subset, testBit_tableBits, testBit_tableBits, mem, Bool.true_and] at both
  exact both.symm

/-- No code point of one table is in another one. -/
theorem not_inIntervals_of_disjoint {table others : List (Nat × Nat)}
    (disjoint : tableBits table &&& tableBits others = 0) {n : Nat}
    (mem : inIntervals table n = true) : inIntervals others n = false := by
  have both := Nat.testBit_and (tableBits table) (tableBits others) n
  rw [disjoint, Nat.zero_testBit, testBit_tableBits, testBit_tableBits, mem, Bool.true_and] at both
  exact both.symm

/-! ## Letters -/

/-- The small letter to a capital of a run. -/
def CaseRun.small (r : CaseRun) (n : Nat) : Nat :=
  (n + r.shift).toNat

/-- The capitals of a run and their small letters. -/
def CaseRun.letters (r : CaseRun) : List Nat :=
  let capitals := List.range' r.first ((r.last - r.first) / r.step + 1) r.step
  capitals ++ capitals.map r.small

/-- Every letter that a run of capitals has or leads to. -/
def runLetters : List Nat :=
  caseRuns.flatMap CaseRun.letters

/-- The code points that are characters. -/
def scalarIntervals : List (Nat × Nat) :=
  [(0, 0xd7ff), (0xe000, 0x10ffff)]

/-- A character that has case and is not skipped. -/
structure IsLetter (n : Nat) : Prop where
  cased : inIntervals casedIntervals n = true
  kept : inIntervals caseIgnorableIntervals n = false
  valid : n.isValidChar

/-- The comparison of the tables, each as one number. -/
theorem runLetters_bits :
    let letters := tableBits (runLetters.map fun n => (n, n))
    letters &&& tableBits casedIntervals = letters
      ∧ letters &&& tableBits caseIgnorableIntervals = 0
      ∧ letters &&& tableBits scalarIntervals = letters := by
  decide +kernel

theorem IsLetter.of_mem {n : Nat} (mem : n ∈ runLetters) : IsLetter n := by
  obtain ⟨cased, skipped, scalars⟩ := runLetters_bits
  have named : inIntervals (runLetters.map fun n => (n, n)) n = true := by
    rw [inIntervals, List.any_map, List.any_eq_true]
    exact ⟨n, mem, by simp⟩
  have scalar := inIntervals_of_subset scalars named
  refine ⟨inIntervals_of_subset cased named, not_inIntervals_of_disjoint skipped named, ?_⟩
  simp only [inIntervals, scalarIntervals, List.any_cons, List.any_nil, Bool.or_false,
    Bool.or_eq_true, Bool.and_eq_true, decide_eq_true_eq] at scalar
  unfold Nat.isValidChar
  omega

theorem CaseRun.mem_range_of_covers {r : CaseRun} {n : Nat} (covered : r.covers n = true) :
    n ∈ List.range' r.first ((r.last - r.first) / r.step + 1) r.step := by
  simp only [CaseRun.covers, Bool.and_eq_true, decide_eq_true_eq, beq_iff_eq] at covered
  obtain ⟨⟨first, last⟩, multiple⟩ := covered
  refine List.mem_range'.mpr ⟨(n - r.first) / r.step, ?_, ?_⟩
  · exact Nat.lt_succ_of_le (Nat.div_le_div_right (Nat.sub_le_sub_right last r.first))
  · rw [Nat.mul_div_cancel' (Nat.dvd_of_mod_eq_zero multiple), Nat.add_sub_cancel' first]

section Runs

variable {r : CaseRun} {n : Nat}

theorem IsLetter.of_covers (mem : r ∈ caseRuns) (covered : r.covers n = true) : IsLetter n :=
  .of_mem (List.mem_flatMap.mpr
    ⟨r, mem, List.mem_append_left _ (CaseRun.mem_range_of_covers covered)⟩)

theorem IsLetter.small_of_covers (mem : r ∈ caseRuns) (covered : r.covers n = true) :
    IsLetter (r.small n) :=
  .of_mem (List.mem_flatMap.mpr ⟨r, mem, List.mem_append_right _
    (List.mem_map_of_mem (CaseRun.mem_range_of_covers covered))⟩)

end Runs

/-! ## Characters that count alike -/

/-- Two characters are treated alike in the search for a neighbouring letter. -/
structure Alike (a b : Char) : Prop where
  cased : isCased a = isCased b
  ignorable : isCaseIgnorable a = isCaseIgnorable b

theorem Alike.refl (c : Char) : Alike c c :=
  ⟨rfl, rfl⟩

theorem Alike.of_letters {a b : Char} (ha : IsLetter a.toNat) (hb : IsLetter b.toNat) :
    Alike a b :=
  ⟨ha.cased.trans hb.cased.symm, ha.kept.trans hb.kept.symm⟩

theorem toNat_ofNat_of_valid {n : Nat} (valid : n.isValidChar) : (Char.ofNat n).toNat = n := by
  unfold Char.ofNat
  rw [dif_pos valid]
  rfl

/-- A character and what takes its place in lower case: the same one, or a letter for a letter. -/
def SameOrLetters (a b : Char) : Prop :=
  b = a ∨ (IsLetter a.toNat ∧ IsLetter b.toNat)

theorem Alike.of_sameOrLetters {a b : Char} (h : SameOrLetters a b) : Alike a b := by
  rcases h with rfl | ⟨ha, hb⟩
  · exact .refl b
  · exact .of_letters ha hb

/-- A capital of a run and its small letter. -/
theorem sameOrLetters_small {r : CaseRun} (mem : r ∈ caseRuns) {c : Char}
    (covered : r.covers c.toNat = true) :
    SameOrLetters c (Char.ofNat (r.small c.toNat)) := by
  have small := IsLetter.small_of_covers mem covered
  refine .inr ⟨.of_covers mem covered, ?_⟩
  rw [toNat_ofNat_of_valid small.valid]
  exact small

theorem sameOrLetters_asciiLowerChar (c : Char) : SameOrLetters c (asciiLowerChar c) := by
  unfold asciiLowerChar
  split
  · next capital =>
      have run : (⟨0x41, 0x5a, 1, 32⟩ : CaseRun) ∈ caseRuns := List.mem_cons_self
      have first : 0x41 ≤ c.toNat := capital.1
      have last : c.toNat ≤ 0x5a := capital.2
      refine sameOrLetters_small run ?_
      simp [CaseRun.covers, first, last, Nat.mod_one]
  · exact .inl rfl

theorem sameOrLetters_simpleLower (c : Char) : SameOrLetters c (simpleLower c) := by
  unfold simpleLower
  split
  · next r found =>
      have covered := List.find?_some found
      exact sameOrLetters_small (List.mem_of_find?_eq_some found) covered
  · exact .inl rfl

/-- The small form of a character begins with one that counts like it. -/
theorem alike_head_lowerChar (c : Char) : ∃ l ls, lowerChar c = l :: ls ∧ Alike c l := by
  unfold lowerChar
  split
  · exact ⟨_, _, rfl, .of_sameOrLetters (sameOrLetters_asciiLowerChar c)⟩
  · split
    · next dotted =>
        have same : c = 'İ' := by
          rw [← Char.ofNat_toNat c, beq_iff_eq.mp dotted]
        subst same
        exact ⟨'i', _, rfl, by decide +kernel, by decide +kernel⟩
    · exact ⟨_, _, rfl, .of_sameOrLetters (sameOrLetters_simpleLower c)⟩

theorem alike_of_lowerChar_eq {a b : Char} (same : lowerChar a = lowerChar b) : Alike a b := by
  obtain ⟨l, ls, ha, alikeA⟩ := alike_head_lowerChar a
  obtain ⟨m, ms, hb, alikeB⟩ := alike_head_lowerChar b
  have head : l = m := (List.cons.inj (ha.symm.trans (same.trans hb))).1
  subst head
  exact ⟨alikeA.cased.trans alikeB.cased.symm, alikeA.ignorable.trans alikeB.ignorable.symm⟩

end StudyHall.Text
