import Mathlib.Algebra.BigOperators.Group.List.Basic
import Mathlib.Algebra.Ring.Int.Defs
import Mathlib.Data.List.Nodup
import StudyHall.Domain.Entries
import StudyHall.Metrics.Recorder

/-!
# What a recorder has been given

A recorder adds up. So what a series has is the sum of what the events have added to it, and what
all series of one name have together is the sum of what was added to any of them. A sum does not
depend on the order of its terms, so events that are told in another order leave the same figures,
and the page that shows them is the same text.

## Main results

* `Recorder.value_recordAll`, `Recorder.sumOf_recordAll` — readings of a recorder are sums over
  events.
* `Recorder.value_perm`, `Recorder.lines_perm` — the order of the events does not matter.
-/

namespace StudyHall.Metrics

/-! ## What is added -/

/-- What additions give to the series of a kind. -/
def given (kind : Series → Bool) (additions : List (Series × Int)) : Int :=
  (additions.map fun a => if kind a.1 then a.2 else 0).sum

theorem given_cons (kind : Series → Bool) (a : Series × Int) (additions : List (Series × Int)) :
    given kind (a :: additions) = (if kind a.1 then a.2 else 0) + given kind additions := by
  simp only [given, List.map_cons, List.sum_cons]

/-- What an event adds to the series of a kind. -/
def Event.amount (kind : Series → Bool) (e : Event) : Int :=
  given kind e.additions

/-- The kind of one series. -/
def only (s : Series) : Series → Bool := (· = s)

/-- The kind of all series of one name. -/
def named (name : String) : Series → Bool := (·.name = name)

namespace Recorder

/-- The series that are there. -/
def series (r : Recorder) : List Series :=
  r.values.map Prod.fst

/-- What the series of a kind have together. -/
def sumOf (r : Recorder) (kind : Series → Bool) : Int :=
  given kind r.values

/-! ## One addition -/

theorem lookup_pair (s t : Series) (v : Int) (rest : List (Series × Int)) :
    ((t, v) :: rest).lookup s = if s = t then some v else rest.lookup s := by
  rw [List.lookup_cons]
  by_cases it : s = t
  · simp [it]
  · simp [it, beq_eq_false_iff_ne.mpr it]

/-- An addition changes the series that it is for, which it makes if need be, and no other. -/
theorem lookup_addTo (target : Series) (amount : Int) (values : List (Series × Int)) (s : Series) :
    (addTo target amount values).lookup s
      = if s = target then some ((values.lookup s).getD 0 + amount) else values.lookup s := by
  induction values with
  | nil => simp [addTo, lookup_pair]
  | cons entry rest ih =>
      obtain ⟨t, v⟩ := entry
      by_cases here : t = target
      · subst here
        by_cases it : s = t
        · simp [addTo, it]
        · simp [addTo, lookup_pair, it]
      · by_cases its : s = t
        · subst its
          simp [addTo, here]
        · simp [addTo, lookup_pair, here, its, ih]

/-- The series that are there after an addition. -/
theorem map_fst_addTo (target : Series) (amount : Int) (values : List (Series × Int)) :
    (addTo target amount values).map Prod.fst
      = if target ∈ values.map Prod.fst then values.map Prod.fst
        else values.map Prod.fst ++ [target] := by
  induction values with
  | nil => rfl
  | cons entry rest ih =>
      obtain ⟨t, v⟩ := entry
      by_cases here : t = target
      · simp [addTo, here]
      · have other : target ≠ t := Ne.symm here
        simp only [addTo, here, if_false, List.map_cons, ih, List.mem_cons, other, false_or]
        by_cases later : target ∈ rest.map Prod.fst
        · simp only [later, if_true]
        · simp only [later, if_false, List.cons_append]

theorem given_addTo (kind : Series → Bool) (target : Series) (amount : Int)
    (values : List (Series × Int)) :
    given kind (addTo target amount values)
      = given kind values + if kind target then amount else 0 := by
  induction values with
  | nil => simp [addTo, given]
  | cons entry rest ih =>
      obtain ⟨t, v⟩ := entry
      by_cases here : t = target
      · subst here
        cases counts : kind t with
        | true =>
            simp only [addTo, if_true, given_cons, counts]
            omega
        | false => simp [addTo, given_cons, counts]
      · simp only [addTo, here, if_false, given_cons, ih]
        omega

/-! ## Readings -/

variable (r : Recorder)

theorem value_addAll (additions : List (Series × Int)) (s : Series) :
    (r.addAll additions).value s = r.value s + given (only s) additions := by
  induction additions generalizing r with
  | nil => simp [addAll, given]
  | cons a rest ih =>
      have first : (r.addAll [a]).value s = r.value s + if only s a.1 then a.2 else 0 := by
        show ((addTo a.1 a.2 r.values).lookup s).getD 0 = (r.values.lookup s).getD 0 + _
        rw [lookup_addTo]
        by_cases it : a.1 = s
        · simp [only, it]
        · simp [only, it, Ne.symm it]
      have split : (r.addAll [a]).addAll rest = r.addAll (a :: rest) := rfl
      rw [← split, ih, first, given_cons, Int.add_assoc]

theorem sumOf_addAll (additions : List (Series × Int)) (kind : Series → Bool) :
    (r.addAll additions).sumOf kind = r.sumOf kind + given kind additions := by
  induction additions generalizing r with
  | nil => simp [addAll, given]
  | cons a rest ih =>
      have first : (r.addAll [a]).sumOf kind = r.sumOf kind + if kind a.1 then a.2 else 0 :=
        given_addTo kind a.1 a.2 r.values
      have split : (r.addAll [a]).addAll rest = r.addAll (a :: rest) := rfl
      rw [← split, ih, first, given_cons, Int.add_assoc]

/-- What events do is what their additions do, one after the other. -/
theorem recordAll_eq_addAll (es : List Event) :
    r.recordAll es = r.addAll (es.flatMap Event.additions) := by
  induction es generalizing r with
  | nil => rfl
  | cons e rest ih =>
      have first : r.recordAll (e :: rest) = (r.addAll e.additions).recordAll rest := rfl
      rw [first, ih, List.flatMap_cons]
      simp only [addAll, List.foldl_append]

theorem given_flatMap (kind : Series → Bool) (es : List Event) :
    given kind (es.flatMap Event.additions) = (es.map (Event.amount kind)).sum := by
  induction es with
  | nil => rfl
  | cons e rest ih =>
      rw [List.flatMap_cons, List.map_cons, List.sum_cons, ← ih]
      simp only [Event.amount, given, List.map_append, List.sum_append]

/-- What a series has is what it had and what the events have added to it. -/
theorem value_recordAll (es : List Event) (s : Series) :
    (r.recordAll es).value s = r.value s + (es.map (Event.amount (only s))).sum := by
  rw [recordAll_eq_addAll, value_addAll, given_flatMap]

/-- What the series of a kind have is what they had and what the events have added to them. -/
theorem sumOf_recordAll (es : List Event) (kind : Series → Bool) :
    (r.recordAll es).sumOf kind = r.sumOf kind + (es.map (Event.amount kind)).sum := by
  rw [recordAll_eq_addAll, sumOf_addAll, given_flatMap]

@[simp] theorem value_empty (s : Series) : empty.value s = 0 := rfl

@[simp] theorem sumOf_empty (kind : Series → Bool) : empty.sumOf kind = 0 := rfl

/-! ## Order -/

/-- An addition makes its series, and keeps the others. -/
theorem mem_series_addAll (additions : List (Series × Int)) (s : Series) :
    s ∈ (r.addAll additions).series ↔ s ∈ r.series ∨ s ∈ additions.map Prod.fst := by
  induction additions generalizing r with
  | nil => simp [addAll]
  | cons a rest ih =>
      have first : s ∈ (r.addAll [a]).series ↔ s ∈ r.series ∨ s = a.1 := by
        show s ∈ (addTo a.1 a.2 r.values).map Prod.fst ↔ s ∈ r.values.map Prod.fst ∨ s = a.1
        rw [map_fst_addTo]
        by_cases known : a.1 ∈ r.values.map Prod.fst
        · rw [if_pos known]
          constructor
          · exact Or.inl
          · rintro (there | rfl)
            · exact there
            · exact known
        · rw [if_neg known, List.mem_append, List.mem_singleton]
      have split : (r.addAll [a]).addAll rest = r.addAll (a :: rest) := rfl
      rw [← split, ih, first, List.map_cons, List.mem_cons, or_assoc]

/-- No series is there twice. -/
def Distinct : Prop := r.series.Nodup

theorem distinct_empty : empty.Distinct := List.nodup_nil

variable {r} {r' : Recorder}

theorem Distinct.addAll (h : r.Distinct) (additions : List (Series × Int)) :
    (r.addAll additions).Distinct := by
  induction additions generalizing r with
  | nil => exact h
  | cons a rest ih =>
      have first : (r.addAll [a]).Distinct := by
        show ((addTo a.1 a.2 r.values).map Prod.fst).Nodup
        rw [map_fst_addTo]
        by_cases known : a.1 ∈ r.values.map Prod.fst
        · rw [if_pos known]
          exact h
        · rw [if_neg known]
          refine List.nodup_append.mpr ⟨h, List.nodup_singleton _, fun s mem t last same => ?_⟩
          have here : a.1 = s := (List.mem_singleton.mp last).symm.trans same.symm
          exact known (here ▸ mem)
      exact ih first

theorem mem_series_iff (s : Series) : s ∈ r.series ↔ (r.values.lookup s).isSome := by
  unfold series
  induction r.values with
  | nil => simp
  | cons entry rest ih =>
      obtain ⟨t, w⟩ := entry
      rw [lookup_pair, List.map_cons, List.mem_cons, ih]
      by_cases it : s = t
      · simp [it]
      · simp [it]

/-- An entry is a series that is there with what it has. -/
theorem Distinct.mem_values_iff (h : r.Distinct) (s : Series) (v : Int) :
    (s, v) ∈ r.values ↔ s ∈ r.series ∧ r.value s = v := by
  rw [← lookup_eq_some_iff_mem h, mem_series_iff, value]
  cases r.values.lookup s with
  | none => simp
  | some w => simp

/-- A recorder has the entries that its series and their values tell. -/
theorem Distinct.perm (h : r.Distinct) (h' : r'.Distinct)
    (there : ∀ s, s ∈ r.series ↔ s ∈ r'.series) (values : ∀ s, r.value s = r'.value s) :
    r.values.Perm r'.values := by
  have nodup : r.values.Nodup := List.Nodup.of_map Prod.fst h
  have nodup' : r'.values.Nodup := List.Nodup.of_map Prod.fst h'
  refine (List.perm_ext_iff_of_nodup nodup nodup').mpr fun entry => ?_
  obtain ⟨s, v⟩ := entry
  rw [h.mem_values_iff, h'.mem_values_iff, there, values]

theorem lineBefore_trans (a b c : String) (ab : lineBefore a b = true)
    (bc : lineBefore b c = true) : lineBefore a c = true :=
  decide_eq_true (String.le_trans (of_decide_eq_true ab) (of_decide_eq_true bc))

theorem lineBefore_total (a b : String) : (lineBefore a b || lineBefore b a) = true := by
  rcases String.le_total a b with ab | ba
  · simp [lineBefore, ab]
  · simp [lineBefore, ba]

/-- The same entries, in whatever order, make the same page. -/
theorem lines_eq_of_perm (same : r.values.Perm r'.values) : r.lines = r'.lines := by
  unfold lines
  have sorted : ∀ ls : List String, (ls.mergeSort lineBefore).Pairwise fun a b => lineBefore a b :=
    List.pairwise_mergeSort lineBefore_trans lineBefore_total
  refine List.Perm.eq_of_pairwise (fun a b _ _ ab ba => ?_) (sorted _) (sorted _) ?_
  · exact String.le_antisymm (of_decide_eq_true ab) (of_decide_eq_true ba)
  · exact (List.mergeSort_perm _ _).trans ((same.map _).trans (List.mergeSort_perm _ _).symm)

variable {es es' : List Event}

/-- Events in another order leave every series with what it has. -/
theorem value_perm (r : Recorder) (reordered : es.Perm es') (s : Series) :
    (r.recordAll es).value s = (r.recordAll es').value s := by
  have same : (es.map (Event.amount (only s))).sum = (es'.map (Event.amount (only s))).sum :=
    (reordered.map _).sum_eq
  rw [value_recordAll, value_recordAll, same]

/-- Events in another order leave the page as it is. -/
theorem lines_perm (h : r.Distinct) (reordered : es.Perm es') :
    (r.recordAll es).lines = (r.recordAll es').lines := by
  have distinct : ∀ es : List Event, (r.recordAll es).Distinct := by
    intro es
    rw [recordAll_eq_addAll]
    exact h.addAll _
  have there : ∀ s, s ∈ (r.recordAll es).series ↔ s ∈ (r.recordAll es').series := by
    intro s
    have mem := (reordered.flatMap_right Event.additions).map Prod.fst |>.mem_iff (a := s)
    rw [recordAll_eq_addAll, recordAll_eq_addAll, mem_series_addAll, mem_series_addAll, mem]
  exact lines_eq_of_perm ((distinct es).perm (distinct es') there (value_perm r reordered))

end Recorder

end StudyHall.Metrics
