import Mathlib.Data.List.Basic
import StudyHall.Proofs.Console.Listing

/-!
# Pages cut the matches without loss

A listing sorts all matches and shows one page of them. Where the page begins is a product and
where it ends a sum of numbers from the request; both stop at the greatest number of 64 bits and
then at the number of matches. Stopping early never shows: operators are kept in memory, so there
are no more of them than 64 bits can count, and a product or sum that is cut short lies beyond the
last match with its exact value as well. The page is therefore the one that exact arithmetic would
cut out, and the pages one after the other are the matches.

## Main results

* `slice?_matched` — both ends of a page lie in order within the matches.
* `items_list` — a page holds the elements that exact arithmetic gives it.
* `flatMap_windows` — windows of one width, one after the other, are the front of a list.
* `pages_cut_matches` — all of this for every directory that a run leads to.
-/

namespace StudyHall.Directory

open Text

variable {d : Directory} {f : Filter}

/-! ## Cutting lists -/

section Lists

variable {α : Type}

/-- The elements of a list from one place up to another. There are none, not even the empty list,
where the places are out of order or the second one is beyond the end. -/
def slice? (xs : List α) (start stop : Nat) : Option (List α) :=
  if start ≤ stop ∧ stop ≤ xs.length then some ((xs.drop start).take (stop - start)) else none

/-- The `page`-th window of a width, the first one being window 1. -/
def window (xs : List α) (width page : Nat) : List α :=
  xs.extract ((page - 1) * width) (page * width)

theorem window_eq {page : Nat} (positive : 0 < page) (xs : List α) (width : Nat) :
    window xs width page = (xs.drop ((page - 1) * width)).take width := by
  have span : page * width - (page - 1) * width = width := by
    rw [← Nat.sub_mul, Nat.sub_sub_self positive, Nat.one_mul]
  rw [window, List.extract_eq_take_drop, span]

/-- Windows one after the other are the front of the list that they reach over. -/
theorem flatMap_windows (xs : List α) (width count : Nat) :
    (List.range' 1 count).flatMap (window xs width) = xs.take (count * width) := by
  induction count with
  | zero => simp
  | succ count ih =>
      have last : window xs width (1 + count) = (xs.drop (count * width)).take width := by
        rw [window_eq (Nat.add_pos_left Nat.one_pos count), Nat.add_sub_cancel_left]
      rw [List.range'_1_concat, List.flatMap_append, ih, List.flatMap_singleton, last,
        Nat.succ_mul, List.take_add]

/-- The number of windows that it takes to reach over a list. -/
theorem length_le_windows (xs : List α) {width : Nat} (positive : 0 < width) :
    xs.length ≤ (xs.length + width - 1) / width * width := by
  have quotient := Nat.div_add_mod (xs.length + width - 1) width
  have rest := Nat.mod_lt (xs.length + width - 1) positive
  rw [Nat.mul_comm] at quotient
  omega

/-- A window that begins beyond the end is empty. -/
theorem window_of_length_le {xs : List α} {width count page : Nat}
    (reached : xs.length ≤ count * width) (later : count < page) : window xs width page = [] := by
  have beyond : count * width ≤ (page - 1) * width :=
    Nat.mul_le_mul_right width (Nat.le_sub_one_of_lt later)
  rw [window_eq (Nat.zero_lt_of_lt later), List.drop_eq_nil_of_le (Nat.le_trans reached beyond),
    List.take_nil]

end Lists

/-! ## The ends of a page -/

namespace Filter

theorem effectivePage_pos (f : Filter) : 0 < f.effectivePage := by
  unfold effectivePage
  split <;> omega

theorem effectiveSize_pos (f : Filter) : 0 < f.effectiveSize := by
  unfold effectiveSize
  split <;> omega

/-- To stop at the greatest number of 64 bits is of no effect on a place within a list that 64 bits
can count. -/
theorem min_saturate {n total : Nat} (counted : total ≤ maxWord64) :
    min (saturate n) total = min n total := by
  unfold saturate
  omega

theorem start_eq {total : Nat} (counted : total ≤ maxWord64) :
    f.start total = min ((f.effectivePage - 1) * f.effectiveSize) total :=
  min_saturate counted

theorem stop_eq {total : Nat} (counted : total ≤ maxWord64) :
    f.stop total = min (f.start total + f.effectiveSize) total :=
  min_saturate counted

theorem start_le_stop {total : Nat} (counted : total ≤ maxWord64) :
    f.start total ≤ f.stop total := by
  have first := start_eq (f := f) counted
  have last := stop_eq (f := f) counted
  omega

theorem stop_le (f : Filter) (total : Nat) : f.stop total ≤ total :=
  Nat.min_le_right _ _

end Filter

/-! ## Pages -/

/-- The matches can be counted with 64 bits if all operators can. -/
theorem length_matched_le (counted : d.size ≤ maxWord64) (f : Filter) :
    (d.matched f).length ≤ maxWord64 := by
  have fewer : (d.operators.filter f.accepts).length ≤ d.operators.length :=
    List.length_filter_le _ _
  have all : d.operators.length = d.size := List.length_map _
  rw [(perm_matched d f).length_eq]
  omega

theorem slice?_matched (counted : d.size ≤ maxWord64) (f : Filter) :
    slice? (d.matched f) (f.start (d.matched f).length) (f.stop (d.matched f).length)
      = some (d.list f).items :=
  if_pos ⟨Filter.start_le_stop (length_matched_le counted f), f.stop_le _⟩

theorem items_list (counted : d.size ≤ maxWord64) (f : Filter) :
    (d.list f).items = window (d.matched f) f.effectiveSize f.effectivePage := by
  have few := length_matched_le counted f
  show ((d.matched f).drop (f.start (d.matched f).length)).take
      (f.stop (d.matched f).length - f.start (d.matched f).length) = _
  rw [window_eq f.effectivePage_pos, Filter.stop_eq few, Filter.start_eq few]
  generalize (f.effectivePage - 1) * f.effectiveSize = first
  by_cases inside : first ≤ (d.matched f).length
  · rw [Nat.min_eq_left inside, List.take_eq_take_iff, List.length_drop]
    omega
  · have beyond : (d.matched f).length ≤ first := Nat.le_of_not_le inside
    rw [Nat.min_eq_right beyond, List.drop_eq_nil_of_le beyond, List.drop_length, List.take_nil,
      List.take_nil]

/-- Another page of the same listing. -/
theorem items_list_page (counted : d.size ≤ maxWord64) (f : Filter) {page : Nat}
    (positive : 0 < page) :
    (d.list { f with page }).items = window (d.matched f) f.effectiveSize page := by
  have meant : Filter.effectivePage { f with page } = page := if_neg (Nat.ne_of_gt positive)
  have items := items_list counted { f with page }
  rw [meant] at items
  exact items

/-- After every run that leaves no more operators than 64 bits can count, a page is cut out of the
matches within their ends, whatever page and page size are asked for, and holds the elements from
place `(p - 1) * s` up to place `p * s` of all matches, counted from 0 and without any bound. As
many pages as the matches fill are together all matches in their order, and no operator is among
them twice; every later page is empty, and every page tells the number of all matches. -/
theorem pages_cut_matches (p : Option AdminProfile) (steps : List (Clock × Operation)) (f : Filter)
    (counted : ((initial p).run steps).size ≤ maxWord64) :
    let d := (initial p).run steps
    let all := d.matched f
    let pages := (all.length + f.effectiveSize - 1) / f.effectiveSize
    slice? all (f.start all.length) (f.stop all.length) = some (d.list f).items
      ∧ (d.list f).items
          = all.extract ((f.effectivePage - 1) * f.effectiveSize)
              (f.effectivePage * f.effectiveSize)
      ∧ (List.range' 1 pages).flatMap (fun page => (d.list { f with page }).items) = all
      ∧ (all.map Operator.id).Nodup
      ∧ (∀ page, pages < page → (d.list { f with page }).items = [])
      ∧ ∀ page, (d.list { f with page }).info.total = all.length := by
  intro d all pages
  have orderly : d.Orderly := (orderly_initial p).run steps
  have reached : all.length ≤ pages * f.effectiveSize := length_le_windows all f.effectiveSize_pos
  refine ⟨slice?_matched counted f, items_list counted f, ?_, orderly.nodup_ids_matched f,
    fun page later => ?_, fun _ => rfl⟩
  · have eachPage : (List.range' 1 pages).flatMap (fun page => (d.list { f with page }).items)
        = (List.range' 1 pages).flatMap (window all f.effectiveSize) := by
      refine List.flatMap_congr fun page mem => ?_
      exact items_list_page counted f (List.mem_range'_1.mp mem).1
    rw [eachPage, flatMap_windows, List.take_of_length_le reached]
  · rw [items_list_page counted f (Nat.zero_lt_of_lt later)]
    exact window_of_length_le reached later

/-- Two operators on pages of one, and the last page of the greatest size, whose place is far
beyond 64 bits. -/
theorem pages_cut_matches_sample :
    let d := (initial none).run sampleSteps
    let single : Filter := { pageSize := 1 }
    let greatest : Filter := { page := maxWord64, pageSize := maxWord64 }
    d.size ≤ maxWord64 ∧ (d.matched single).length = 2
      ∧ (List.range' 1 2).flatMap (fun page => (d.list { single with page }).items)
          = d.matched single
      ∧ (d.list { single with page := 3 }).items = []
      ∧ (d.list greatest).items = [] := by
  intro d single greatest
  have counted : d.size ≤ maxWord64 := by decide +kernel
  have two (f : Filter) (all : f.accepts = fun _ => true) : (d.matched f).length = 2 := by
    rw [(perm_matched d f).length_eq, all]
    decide +kernel
  obtain ⟨-, -, whole, -, later, -⟩ := pages_cut_matches none sampleSteps single counted
  obtain ⟨-, -, -, -, beyond, -⟩ := pages_cut_matches none sampleSteps greatest counted
  have few := two single rfl
  have pages : (2 + single.effectiveSize - 1) / single.effectiveSize = 2 := by decide
  rw [few, pages] at whole later
  rw [two greatest rfl] at beyond
  exact ⟨counted, few, whole, later 3 (by decide), beyond maxWord64 (by decide)⟩

end StudyHall.Directory
