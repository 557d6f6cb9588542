import Mathlib.Data.List.Basic
import StudyHall.Proofs.Text.Pieces

/-!
# Words and the spaces between them

The words of a text are its longest stretches without a blank. A blank keeps the words on its two
sides apart, and from this one equation all else about words follows. A text is single-spaced if it
neither begins nor ends with a blank, has no two spaces in a row and no other blanks. That is said
without words, and means just that the text is joined from its words.

## Main results

* `pair_infix_cons_iff` — where two characters stand in a row.
* `isWord_of_mem_wordsOf`, `wordsOf_append_blank` — what words are, and where they end.
* `wordsOf_joinWith` — joined words are found again.
* `singleSpaced_iff` — a text is single-spaced exactly if it is joined from its words.
-/

namespace StudyHall.Text

/-! ## Two characters in a row -/

section Pairs

variable {a b c : Char} {w cs : List Char}

theorem pair_infix_cons_iff :
    [a, b] <:+: c :: cs ↔ (c = a ∧ cs.head? = some b) ∨ [a, b] <:+: cs := by
  have begins : [b] <+: cs ↔ cs.head? = some b := by
    cases cs with
    | nil => simp
    | cons d cs => simp [List.cons_prefix_cons, eq_comm]
  rw [List.infix_cons_iff, List.cons_prefix_cons, begins, eq_comm (a := c)]

/-- The first of two equal characters in a row is not behind the first one of all. -/
theorem pair_infix_append_cons_iff (absent : a ∉ w) :
    [a, a] <:+: w ++ a :: cs ↔ cs.head? = some a ∨ [a, a] <:+: cs := by
  induction w with
  | nil => rw [List.nil_append, pair_infix_cons_iff, and_iff_right rfl]
  | cons d w ih =>
      obtain ⟨other, others⟩ := not_or.mp (mt List.mem_cons.mpr absent)
      rw [List.cons_append, pair_infix_cons_iff, ih others]
      simp [Ne.symm other]

end Pairs

/-! ## Words -/

/-- A word: it is not empty, and no character in it is blank. -/
structure IsWord (w : List Char) : Prop where
  ne_nil : w ≠ []
  visible : ∀ c ∈ w, isBlank c = false

theorem pieces_eq_splitOnP (p : Char → Bool) (cs : List Char) : pieces p cs = cs.splitOnP p := by
  induction cs with
  | nil => rfl
  | cons c cs ih =>
      rw [List.splitOnP_cons_eq_if_modifyHead, ← ih, pieces]
      cases rest : pieces p cs with
      | nil => exact absurd rest (pieces_ne_nil p cs)
      | cons w ws => rfl

/-- No character at which a text is cut is left in a piece. -/
theorem eq_false_of_mem_pieces {p : Char → Bool} {w cs : List Char} (mem : w ∈ pieces p cs) :
    ∀ c ∈ w, p c = false := by
  induction cs generalizing w with
  | nil =>
      rw [pieces, List.mem_singleton] at mem
      rw [mem]
      exact List.forall_mem_nil _
  | cons c cs ih =>
      rw [pieces] at mem
      by_cases cut : p c = true
      · rw [if_pos cut, List.mem_cons] at mem
        rcases mem with rfl | later
        · exact List.forall_mem_nil _
        · exact ih later
      · obtain ⟨v, vs, rest⟩ := List.exists_cons_of_ne_nil (pieces_ne_nil p cs)
        rw [if_neg cut, rest] at mem
        rw [rest] at ih
        rcases List.mem_cons.mp mem with rfl | later
        · exact List.forall_mem_cons.mpr ⟨Bool.eq_false_iff.mpr cut, ih List.mem_cons_self⟩
        · exact ih (List.mem_cons_of_mem v later)

theorem isWord_of_mem_wordsOf {w cs : List Char} (mem : w ∈ wordsOf cs) : IsWord w := by
  obtain ⟨piece, filled⟩ := List.mem_filter.mp mem
  exact ⟨by simpa using filled, eq_false_of_mem_pieces piece⟩

theorem isWord_of_wordsOf_eq_cons {w cs : List Char} {ws : List (List Char)}
    (found : wordsOf cs = w :: ws) : IsWord w ∧ ∀ v ∈ ws, IsWord v := by
  have each : ∀ v ∈ w :: ws, IsWord v := by
    rw [← found]
    exact fun _ => isWord_of_mem_wordsOf
  exact List.forall_mem_cons.mp each

theorem wordsOf_word {w : List Char} (word : IsWord w) : wordsOf w = [w] := by
  rw [wordsOf, pieces_of_none word.visible]
  simp [word.ne_nil]

/-- A blank keeps the words on its two sides apart. -/
theorem wordsOf_append_blank {blank : Char} (h : isBlank blank = true) (cs ds : List Char) :
    wordsOf (cs ++ blank :: ds) = wordsOf cs ++ wordsOf ds := by
  simp only [wordsOf, pieces_eq_splitOnP, List.splitOnP_append_cons cs ds h, List.filter_append]

/-- Joined words are found again. -/
theorem wordsOf_joinWith {ws : List (List Char)} (words : ∀ w ∈ ws, IsWord w) :
    wordsOf (joinWith [' '] ws) = ws := by
  induction ws with
  | nil => rfl
  | cons w ws ih =>
      obtain ⟨first, others⟩ := List.forall_mem_cons.mp words
      cases ws with
      | nil => exact wordsOf_word first
      | cons v ws =>
          rw [joinWith, List.append_assoc, List.singleton_append, wordsOf_append_blank (by decide),
            wordsOf_word first, ih others, List.singleton_append]

/-! ## Single spaces -/

/-- Single spaces, no other blanks, and none at the ends. -/
structure SingleSpaced (cs : List Char) : Prop extends Trimmed cs where
  spaces : ∀ c ∈ cs, isBlank c = true → c = ' '
  apart : ¬ [' ', ' '] <:+: cs

section Spaces

variable {w cs : List Char}

theorem space_notMem_of_visible (visible : ∀ c ∈ w, isBlank c = false) : ' ' ∉ w :=
  fun mem => absurd (visible ' ' mem) (by decide)

theorem SingleSpaced.of_visible (visible : ∀ c ∈ w, isBlank c = false) : SingleSpaced w where
  toTrimmed := .of_visible visible
  spaces c mem blank := by
    rw [visible c mem] at blank
    cases blank
  apart pair := space_notMem_of_visible visible (pair.mem List.mem_cons_self)

theorem getLast?_append_space (more : cs ≠ []) : (w ++ ' ' :: cs).getLast? = cs.getLast? := by
  rw [List.getLast?_append_of_ne_nil _ (List.cons_ne_nil _ _), List.getLast?_cons_of_ne_nil more]

/-- A word, a space and more that is single-spaced. -/
theorem SingleSpaced.append (word : IsWord w) (more : cs ≠ []) (rest : SingleSpaced cs) :
    SingleSpaced (w ++ ' ' :: cs) where
  first c mem := by
    rw [List.head?_append_of_ne_nil _ word.ne_nil] at mem
    exact word.visible c (List.mem_of_mem_head? mem)
  last c mem := by
    rw [getLast?_append_space more] at mem
    exact rest.last c mem
  spaces c mem blank := by
    rcases List.mem_append.mp mem with inside | behind
    · rw [word.visible c inside] at blank
      cases blank
    · rcases List.mem_cons.mp behind with space | later
      · exact space
      · exact rest.spaces c later blank
  apart pair := by
    rcases (pair_infix_append_cons_iff (space_notMem_of_visible word.visible)).mp pair with
      begins | later
    · exact absurd (rest.first ' ' begins) (by decide)
    · exact rest.apart later

/-- What is single-spaced has a word in front of its first space and more behind it. -/
theorem SingleSpaced.of_append (single : SingleSpaced (w ++ ' ' :: cs)) (plain : ' ' ∉ w) :
    w ≠ [] ∧ cs ≠ [] ∧ SingleSpaced cs := by
  have filled : w ≠ [] := by
    rintro rfl
    exact absurd (single.first ' ' rfl) (by decide)
  have more : cs ≠ [] := by
    rintro rfl
    exact absurd (single.last ' ' (by simp)) (by decide)
  have spaces (c : Char) (mem : c ∈ cs) : isBlank c = true → c = ' ' :=
    single.spaces c (by simp [mem])
  refine ⟨filled, more, ⟨⟨fun c mem => ?_, fun c mem => ?_⟩, spaces, fun pair => ?_⟩⟩
  · rw [Bool.eq_false_iff]
    intro blank
    rw [spaces c (List.mem_of_mem_head? mem) blank] at mem
    exact single.apart ((pair_infix_append_cons_iff plain).mpr (.inl mem))
  · exact single.last c (by rwa [getLast?_append_space more])
  · exact single.apart ((pair_infix_append_cons_iff plain).mpr (.inr pair))

theorem singleSpaced_joinWith {ws : List (List Char)} (words : ∀ w ∈ ws, IsWord w) :
    SingleSpaced (joinWith [' '] ws) := by
  induction ws with
  | nil => exact .of_visible (List.forall_mem_nil _)
  | cons w ws ih =>
      obtain ⟨first, others⟩ := List.forall_mem_cons.mp words
      cases ws with
      | nil => exact .of_visible first.visible
      | cons v ws =>
          have more : joinWith [' '] (v :: ws) ≠ [] := by
            intro nothing
            have found := wordsOf_joinWith others
            rw [nothing] at found
            cases found
          rw [joinWith, List.append_assoc, List.singleton_append]
          exact .append first more (ih others)

theorem SingleSpaced.visible (single : SingleSpaced cs) (inside : w ⊆ cs) (plain : ' ' ∉ w) :
    ∀ c ∈ w, isBlank c = false := by
  intro c mem
  rw [Bool.eq_false_iff]
  intro blank
  rw [single.spaces c (inside mem) blank] at mem
  exact plain mem

theorem SingleSpaced.joinWith_wordsOf (single : SingleSpaced cs) :
    joinWith [' '] (wordsOf cs) = cs := by
  induction cs using pieces_induction ' ' with
  | last w plain =>
      by_cases nothing : w = []
      · subst nothing
        rfl
      · rw [wordsOf_word ⟨nothing, single.visible (List.Subset.refl w) plain⟩, joinWith]
  | more w cs plain ih =>
      have visible := single.visible (List.subset_append_left w _) plain
      obtain ⟨filled, more, rest⟩ := single.of_append plain
      have joined := ih rest
      rw [wordsOf_append_blank (by decide), wordsOf_word ⟨filled, visible⟩,
        List.singleton_append]
      cases found : wordsOf cs with
      | nil =>
          rw [found] at joined
          exact absurd joined.symm more
      | cons v vs =>
          rw [joinWith, ← found, joined, List.append_assoc, List.singleton_append]

/-- A text is single-spaced exactly if it is joined from its words. -/
theorem singleSpaced_iff : SingleSpaced cs ↔ joinWith [' '] (wordsOf cs) = cs := by
  constructor
  · exact SingleSpaced.joinWith_wordsOf
  · intro joined
    rw [← joined]
    exact singleSpaced_joinWith fun _ => isWord_of_mem_wordsOf

end Spaces

end StudyHall.Text
