import StudyHall.Proofs.Console.Bulk
import StudyHall.Proofs.Console.Listing

/-!
# Mentions and operators

A removal of many operators counts operators: one that is mentioned again is no longer there. A
change of many states counts mentions: an operator stays in the directory and is found as often as
it is listed. So the two counts agree exactly on the lists that mention no operator twice, and only
the first is in any case at most the number of operators.

What ties the counts together is that the ids in a directory are pairwise different, so that a
mention which finds somebody finds exactly one operator.

## Main results

* `sum_count_eq_countP` — the members of a list that stand in another one, counted by either list.
* `sum_eq_countP_iff` — a sum of multiplicities counts what occurs if nothing occurs twice.
* `count_bulkStatus`, `count_bulkDelete` — what the two loops count.
* `status_counts_mentions` — both counts in every directory that a run leads to.
* `counted_twice` — an operator that is listed twice counts twice.
-/

namespace StudyHall.Directory

/-! ## Multiplicities -/

section Multiplicities

variable {α : Type}

theorem countP_contains_cons [BEq α] [LawfulBEq α] {x : α} {xs : List α} (fresh : x ∉ xs)
    (ids : List α) :
    ids.countP (x :: xs).contains = ids.count x + ids.countP xs.contains := by
  induction ids with
  | nil => rfl
  | cons a ids ih =>
      rw [List.countP_cons, List.countP_cons, List.count_cons, ih, List.contains_cons]
      by_cases same : a = x
      · subst same
        have other : xs.contains a = false := by simpa using fresh
        simp only [beq_self_eq_true, other, Bool.true_or, if_true, Bool.false_eq_true, if_false]
        omega
      · have other : (a == x) = false := by simpa using same
        simp only [other, Bool.false_or, Bool.false_eq_true, if_false]
        omega

/-- Of different things, those that a list holds are held in it as often as all of them together. -/
theorem sum_count_eq_countP [BEq α] [LawfulBEq α] {xs : List α} (nodup : xs.Nodup)
    (ids : List α) : (xs.map fun x => ids.count x).sum = ids.countP xs.contains := by
  induction xs with
  | nil => exact (List.countP_eq_zero.mpr fun a _ => Bool.false_ne_true).symm
  | cons x xs ih =>
      obtain ⟨fresh, nodup⟩ := List.nodup_cons.mp nodup
      rw [List.map_cons, List.sum_cons, ih nodup, countP_contains_cons fresh]

/-- A sum is at least the number of what is not zero, and it is this number if nothing is above
one. -/
theorem sum_eq_countP_iff (f : α → Nat) (xs : List α) :
    xs.countP (fun x => 0 < f x) ≤ (xs.map f).sum
      ∧ ((xs.map f).sum = xs.countP (fun x => 0 < f x) ↔ ∀ x ∈ xs, f x ≤ 1) := by
  induction xs with
  | nil => simp
  | cons x xs ih =>
      obtain ⟨bound, iff⟩ := ih
      rw [List.map_cons, List.sum_cons, List.countP_cons, List.forall_mem_cons, ← iff]
      simp only [decide_eq_true_eq]
      split <;> omega

end Multiplicities

/-! ## What the loops count -/

variable {d : Directory}

/-- A change of many states counts the mentions that find somebody, since a change of a state takes
nobody away. -/
theorem count_bulkStatus (d : Directory) (clock : Clock) (status : OperatorStatus)
    (ids : List Uuid) :
    (d.bulkStatus clock status ids).1 = ids.countP fun id => (d.get? id).isSome := by
  induction ids generalizing d clock with
  | nil => rfl
  | cons key ids ih =>
      rw [List.countP_cons]
      unfold bulkStatus
      split
      · next o present =>
          have found (id : Uuid) :
              ((d.modify key (Operator.setStatus status clock.first)).get? id).isSome
                = (d.get? id).isSome := by
            rw [get?_modify]
            split
            · rw [Option.isSome_map]
            · rfl
          simp only [ih, found, present, Option.isSome_some, if_true]
      · next absent =>
          simp only [ih, absent, Option.isSome_none, Bool.false_eq_true, if_false, Nat.add_zero]

/-- A removal of many operators counts the records that it takes away. -/
theorem count_bulkDelete (d : Directory) (ids : List Uuid) :
    (d.bulkDelete ids).1 = d.entries.countP fun e => e.1 ∈ ids := by
  have balance := size_bulkDelete d ids
  have parts := List.length_eq_countP_add_countP (fun e : Uuid × Operator => decide (e.1 ∈ ids))
    (l := d.entries)
  have kept : (d.bulkDelete ids).2.size
      = d.entries.countP fun e => decide ¬ decide (e.1 ∈ ids) = true := by
    rw [size, entries_bulkDelete, List.countP_eq_length_filter]
    simp only [decide_eq_true_eq]
  have all : d.size = d.entries.length := rfl
  omega

namespace Orderly

theorem contains_ids (orderly : d.Orderly) (id : Uuid) :
    (d.operators.map Operator.id).contains id = (d.get? id).isSome := by
  rw [Bool.eq_iff_iff, List.contains_iff_mem, List.mem_map, Option.isSome_iff_exists]
  constructor
  · rintro ⟨o, mem, rfl⟩
    obtain ⟨key, present⟩ := mem_operators_iff.mp mem
    exact ⟨o, (orderly.keyed present) ▸ present⟩
  · rintro ⟨o, present⟩
    exact ⟨o, mem_operators_iff.mpr ⟨id, present⟩, orderly.keyed present⟩

theorem count_bulkStatus (orderly : d.Orderly) (clock : Clock) (status : OperatorStatus)
    (ids : List Uuid) :
    (d.bulkStatus clock status ids).1 = (d.operators.map fun o => ids.count o.id).sum := by
  have mentions := sum_count_eq_countP orderly.nodup_ids ids
  rw [List.map_map] at mentions
  rw [Directory.count_bulkStatus]
  simp only [← orderly.contains_ids]
  exact mentions.symm

theorem count_bulkDelete (orderly : d.Orderly) (ids : List Uuid) :
    (d.bulkDelete ids).1 = d.operators.countP fun o => o.id ∈ ids := by
  rw [Directory.count_bulkDelete, operators, List.countP_map]
  refine List.countP_congr fun e mem => ?_
  simp only [Function.comp_apply, orderly.keyed (get?_eq_some_iff.mpr mem)]

end Orderly

/-- In every directory that a run leads to, a removal of many operators counts those whose ids are
listed, and so at most all there are. A change of many states counts them as often as they are
listed. This is never less, and it is the same exactly if no operator is listed twice. -/
theorem status_counts_mentions (p : Option AdminProfile) (steps : List (Clock × Operation))
    (clock : Clock) (status : OperatorStatus) (ids : List Uuid) :
    let d := (initial p).run steps
    (d.bulkDelete ids).1 = d.operators.countP (fun o => o.id ∈ ids)
      ∧ (d.bulkDelete ids).1 ≤ d.size
      ∧ (d.bulkStatus clock status ids).1 = (d.operators.map fun o => ids.count o.id).sum
      ∧ (d.bulkDelete ids).1 ≤ (d.bulkStatus clock status ids).1
      ∧ ((d.bulkStatus clock status ids).1 = (d.bulkDelete ids).1 ↔
          ∀ o ∈ d.operators, ids.count o.id ≤ 1) := by
  intro d
  have orderly : d.Orderly := (orderly_initial p).run steps
  have occurs (o : Operator) : decide (o.id ∈ ids) = decide (0 < ids.count o.id) :=
    decide_eq_decide.mpr List.count_pos_iff.symm
  have removals := orderly.count_bulkDelete ids
  have mentions := orderly.count_bulkStatus clock status ids
  obtain ⟨bound, same⟩ := sum_eq_countP_iff (fun o : Operator => ids.count o.id) d.operators
  simp only [← occurs, ← removals, ← mentions] at bound same
  have balance := size_bulkDelete d ids
  exact ⟨removals, by omega, mentions, bound, same⟩

/-- An operator who is listed twice counts twice for a change of states, although there is nobody
else and a removal counts one. -/
theorem counted_twice :
    let root : AdminProfile := ⟨.ofNat 7, "Root", "root@x", .superAdmin, .jee, .epoch, []⟩
    let d := (initial (some root)).run []
    let ids := [root.id, root.id]
    (d.bulkStatus (Clock.steady (minute 1)) .inactive ids).1 = 2
      ∧ d.operators.countP (fun o => o.id ∈ ids) = 1
      ∧ (d.bulkDelete ids).1 = 1
      ∧ d.size = 1 := by
  decide +kernel

end StudyHall.Directory
