import Mathlib.Data.List.TakeWhile
import StudyHall.Text.Blank

/-!
# Texts piece by piece

A text is one piece without the separator, or such a piece, the separator and a shorter text. So
what is to be shown of a text is shown by induction on its pieces, and a function that goes through
a text without looking across separators is the same function on each of the pieces.

## Main results

* `pieces_induction` — induction on the pieces of a text.
* `pieces_of_piecewise` — a function that works piece by piece.
* `pieces_joinWith` — what is joined is cut into the same pieces again.
* `items_eq`, `mem_items_iff` — the items of a list.
* `trimChars_append`, `exists_blanks_around` — trimming takes away the blanks around a text.
-/

namespace StudyHall.Text

variable {sep : Char}

/-- What holds of texts without the separator, and carries over from what follows the first
separator to the whole, holds of every text. -/
theorem pieces_induction (sep : Char) {motive : List Char → Prop} (last : ∀ w, sep ∉ w → motive w)
    (more : ∀ w cs, sep ∉ w → motive cs → motive (w ++ sep :: cs)) (cs : List Char) :
    motive cs := by
  by_cases separated : sep ∈ cs
  · obtain ⟨w, rest, rfl, plain⟩ := List.eq_append_cons_of_mem separated
    have shorter : rest.length < (w ++ sep :: rest).length := by
      rw [List.length_append, List.length_cons]
      omega
    exact more w rest plain (pieces_induction sep last more rest)
  · exact last cs separated
termination_by cs.length

/-- What is checked of every character of a text, one after the other, holds of all of them. -/
theorem forall_mem_of_all {P : Char → Prop} [DecidablePred P] {cs : List Char}
    (checked : (cs.all fun c => decide (P c)) = true) : ∀ c ∈ cs, P c :=
  fun c mem => of_decide_eq_true (List.all_eq_true.mp checked c mem)

theorem beq_eq_false_of_mem {w : List Char} (plain : sep ∉ w) {c : Char} (mem : c ∈ w) :
    (c == sep) = false := by
  rw [beq_eq_false_iff_ne]
  rintro rfl
  exact plain mem

theorem pieces_eq_singleton {w : List Char} (plain : sep ∉ w) : pieces (· == sep) w = [w] :=
  pieces_of_none fun _ => beq_eq_false_of_mem plain

theorem pieces_append_cons {w : List Char} (plain : sep ∉ w) (cs : List Char) :
    pieces (· == sep) (w ++ sep :: cs) = w :: pieces (· == sep) cs := by
  have ends : (fun c => c == sep) sep = true := beq_self_eq_true sep
  exact pieces_append (fun _ => beq_eq_false_of_mem plain) ends cs

/-- A separator keeps the pieces on its two sides apart. -/
theorem pieces_append_sep (sep : Char) (cs ds : List Char) :
    pieces (· == sep) (cs ++ sep :: ds) = pieces (· == sep) cs ++ pieces (· == sep) ds := by
  induction cs using pieces_induction sep with
  | last w none => rw [pieces_append_cons none, pieces_eq_singleton none, List.singleton_append]
  | more w cs none ih =>
      rw [List.append_assoc, List.cons_append, pieces_append_cons none, pieces_append_cons none, ih,
        List.cons_append]

/-- What stands in front of a text goes to its first piece. -/
theorem pieces_append_of_eq {w cs p : List Char} {ps : List (List Char)} (plain : sep ∉ w)
    (cut : pieces (· == sep) cs = p :: ps) : pieces (· == sep) (w ++ cs) = (w ++ p) :: ps := by
  induction cs using pieces_induction sep with
  | last v none =>
      rw [pieces_eq_singleton none] at cut
      obtain ⟨rfl, rfl⟩ := List.cons.inj cut
      refine pieces_eq_singleton fun mem => ?_
      rcases List.mem_append.mp mem with front | back
      · exact plain front
      · exact none back
  | more v cs none _ =>
      rw [pieces_append_cons none] at cut
      obtain ⟨rfl, rfl⟩ := List.cons.inj cut
      rw [← List.append_assoc]
      refine pieces_append_cons (fun mem => ?_) cs
      rcases List.mem_append.mp mem with front | back
      · exact plain front
      · exact none back

/-- What is joined from pieces without the separator is cut into them again. -/
theorem pieces_joinWith {ws : List (List Char)} (plain : ∀ w ∈ ws, sep ∉ w) (some : ws ≠ []) :
    pieces (· == sep) (joinWith [sep] ws) = ws := by
  induction ws with
  | nil => exact absurd rfl some
  | cons w ws ih =>
      obtain ⟨first, others⟩ := List.forall_mem_cons.mp plain
      cases ws with
      | nil => exact pieces_eq_singleton first
      | cons v ws =>
          rw [joinWith, List.append_assoc, List.singleton_append, pieces_append_cons first,
            ih others (List.cons_ne_nil v ws)]

/-- No separator is left in a piece. -/
theorem notMem_of_mem_pieces {w cs : List Char} (mem : w ∈ pieces (· == sep) cs) : sep ∉ w := by
  induction cs using pieces_induction sep with
  | last v none =>
      rw [pieces_eq_singleton none, List.mem_singleton] at mem
      rwa [mem]
  | more v cs none ih =>
      rw [pieces_append_cons none, List.mem_cons] at mem
      rcases mem with rfl | mem
      · exact none
      · exact ih mem

theorem joinWith_eq_intercalate (sep : List Char) (ws : List (List Char)) :
    joinWith sep ws = sep.intercalate ws := by
  induction ws with
  | nil => rw [joinWith, List.intercalate_nil]
  | cons w ws ih =>
      cases ws with
      | nil => rw [joinWith, List.intercalate_singleton]
      | cons v ws => rw [joinWith, ih, List.intercalate_cons_cons]

theorem not_mem_joinWith {c : Char} {ws : List (List Char)} (other : c ≠ sep)
    (absent : ∀ w ∈ ws, c ∉ w) : c ∉ joinWith [sep] ws := by
  induction ws with
  | nil => exact List.not_mem_nil
  | cons w ws ih =>
      obtain ⟨first, others⟩ := List.forall_mem_cons.mp absent
      cases ws with
      | nil => exact first
      | cons v ws =>
          simp only [joinWith, List.mem_append, List.mem_singleton, not_or]
          exact ⟨⟨first, other⟩, ih others⟩

/-- A text is determined by its pieces. -/
theorem eq_of_pieces_eq {cs ds : List Char} (same : pieces (· == sep) cs = pieces (· == sep) ds) :
    cs = ds := by
  rw [← joinWith_pieces sep cs, same, joinWith_pieces]

/-- A function that passes separators on, starts anew after each of them and brings in none makes
pieces out of pieces. -/
theorem pieces_of_piecewise {f : List Char → List Char}
    (starts : ∀ w cs, f (w ++ sep :: cs) = f w ++ sep :: f cs)
    (plain : ∀ w, sep ∉ w → sep ∉ f w) (cs : List Char) :
    pieces (· == sep) (f cs) = (pieces (· == sep) cs).map f := by
  induction cs using pieces_induction sep with
  | last w none =>
      rw [pieces_eq_singleton none, pieces_eq_singleton (plain w none), List.map_singleton]
  | more w cs none ih =>
      rw [starts, pieces_append_cons (plain w none), pieces_append_cons none, ih, List.map_cons]

/-! ## Lists -/

/-- The items of a list are its pieces without the blanks at their ends, where something is left. -/
theorem items_eq (s : String) :
    items s = ((pieces (· == ',') s.toList).map fun w => trim (String.ofList w)).filter
      fun item => item ≠ "" := by
  have trimmed (w : List Char) : trim (String.ofList w) = String.ofList (trimChars w) := by
    rw [trim, String.toList_ofList]
  have filled (w : List Char) : decide (String.ofList w ≠ "") = !w.isEmpty := by
    cases w <;> simp
  unfold items itemsOf
  simp only [trimmed, List.filter_map, List.map_map, Function.comp_def, filled]

theorem mem_items_iff {s item : String} :
    item ∈ items s ↔
      item ≠ "" ∧ ∃ piece ∈ pieces (· == ',') s.toList, trim (String.ofList piece) = item := by
  rw [items_eq, List.mem_filter, decide_eq_true_eq, List.mem_map, and_comm]

/-! ## Blanks around a text -/

/-- Characters that neither begin nor end with a blank. -/
structure Trimmed (cs : List Char) : Prop where
  first : ∀ c ∈ cs.head?, isBlank c = false
  last : ∀ c ∈ cs.getLast?, isBlank c = false

theorem Trimmed.of_visible {cs : List Char} (visible : ∀ c ∈ cs, isBlank c = false) :
    Trimmed cs where
  first c mem := visible c (List.mem_of_mem_head? mem)
  last c mem := visible c (List.mem_of_mem_getLast? mem)

theorem dropWhile_of_first {cs : List Char} (first : ∀ c ∈ cs.head?, isBlank c = false) :
    cs.dropWhile isBlank = cs := by
  cases cs with
  | nil => rfl
  | cons c cs => exact List.dropWhile_cons_of_neg (by simp [first c rfl])

theorem dropWhile_blanks {blanks : List Char} (blank : ∀ c ∈ blanks, isBlank c = true) :
    blanks.dropWhile isBlank = [] :=
  List.dropWhile_eq_nil_iff.mpr blank

/-- Trimming takes away the blanks around a text that has none at its ends, and nothing else. -/
theorem trimChars_append {before cs after : List Char} (front : ∀ c ∈ before, isBlank c = true)
    (trimmed : Trimmed cs) (back : ∀ c ∈ after, isBlank c = true) :
    trimChars (before ++ cs ++ after) = cs := by
  have backwards : ∀ c ∈ after.reverse, isBlank c = true := fun c mem =>
    back c (List.mem_reverse.mp mem)
  have last : ∀ c ∈ cs.reverse.head?, isBlank c = false := by
    rw [List.head?_reverse]
    exact trimmed.last
  unfold trimChars
  rw [List.append_assoc, List.dropWhile_append_of_pos front]
  cases cs with
  | nil =>
      rw [List.nil_append, dropWhile_blanks back]
      rfl
  | cons c cs =>
      have begins : ∀ d ∈ (c :: cs ++ after).head?, isBlank d = false := trimmed.first
      rw [dropWhile_of_first begins, List.reverse_append, List.dropWhile_append_of_pos backwards,
        dropWhile_of_first last, List.reverse_reverse]

theorem trimChars_padded {before cs after : List Char} (front : ∀ c ∈ before, isBlank c = true)
    (visible : ∀ c ∈ cs, isBlank c = false) (back : ∀ c ∈ after, isBlank c = true) :
    trimChars (before ++ cs ++ after) = cs :=
  trimChars_append front (.of_visible visible) back

/-- Every text is what trimming leaves of it with blanks around it. -/
theorem exists_blanks_around (cs : List Char) :
    ∃ before after, cs = before ++ trimChars cs ++ after ∧ (∀ c ∈ before, isBlank c = true)
      ∧ (∀ c ∈ after, isBlank c = true) ∧ Trimmed (trimChars cs) := by
  let rest := cs.dropWhile isBlank
  have back : rest = trimChars cs ++ (rest.reverse.takeWhile isBlank).reverse := by
    show rest = (rest.reverse.dropWhile isBlank).reverse ++ (rest.reverse.takeWhile isBlank).reverse
    rw [← List.reverse_append, List.takeWhile_append_dropWhile, List.reverse_reverse]
  refine ⟨cs.takeWhile isBlank, (rest.reverse.takeWhile isBlank).reverse, ?_, ?_, ?_, ?_, ?_⟩
  · rw [List.append_assoc, ← back]
    exact (List.takeWhile_append_dropWhile).symm
  · exact List.all_eq_true.mp List.all_takeWhile
  · intro c mem
    exact List.all_eq_true.mp List.all_takeWhile c (List.mem_reverse.mp mem)
  · intro c mem
    have first : rest.head? = some c := by
      rw [back, List.head?_append, Option.mem_def.mp mem, Option.some_or]
    have stops := List.head?_dropWhile_not isBlank cs
    rw [show (cs.dropWhile isBlank).head? = some c from first] at stops
    simpa using stops
  · intro c mem
    have last : (rest.reverse.dropWhile isBlank).head? = some c := by
      rw [← List.getLast?_reverse]
      exact mem
    have stops := List.head?_dropWhile_not isBlank rest.reverse
    rw [last] at stops
    simpa using stops

theorem trimmed_trimChars (cs : List Char) : Trimmed (trimChars cs) := by
  obtain ⟨-, -, -, -, -, trimmed⟩ := exists_blanks_around cs
  exact trimmed

/-- What is trimmed stays. -/
theorem trimChars_of_trimmed {cs : List Char} (trimmed : Trimmed cs) : trimChars cs = cs := by
  have alone : trimChars ([] ++ cs ++ []) = cs := trimChars_append nofun trimmed nofun
  rwa [List.nil_append, List.append_nil] at alone

/-- Nothing is trimmed away where there is no blank. -/
theorem trim_of_visible {s : String} (visible : s.toList.any isBlank = false) : trim s = s := by
  have each : ∀ c ∈ s.toList, isBlank c = false := by simpa using visible
  rw [trim, trimChars_of_trimmed (.of_visible each), String.ofList_toList]

theorem trim_trim (s : String) : trim (trim s) = trim s := by
  unfold trim
  rw [String.toList_ofList, trimChars_of_trimmed (trimmed_trimChars _)]

/-- Nothing is left exactly of what is blank throughout. -/
theorem trimChars_eq_nil_iff {cs : List Char} :
    trimChars cs = [] ↔ ∀ c ∈ cs, isBlank c = true := by
  constructor
  · intro nothing
    obtain ⟨before, after, whole, front, back, -⟩ := exists_blanks_around cs
    rw [nothing, List.append_nil] at whole
    intro c mem
    rw [whole] at mem
    rcases List.mem_append.mp mem with mem | mem
    · exact front c mem
    · exact back c mem
  · intro blank
    unfold trimChars
    rw [dropWhile_blanks blank]
    rfl

end StudyHall.Text
