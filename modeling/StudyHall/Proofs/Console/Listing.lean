import Mathlib.Algebra.GroupWithZero.Nat
import StudyHall.Proofs.Console.LastWrite
import StudyHall.Proofs.Console.Uniqueness

/-!
# Listings depend on the records alone

A directory keeps its entries in some order, and a listing must not show it. It cannot, because the
order of a listing leaves no choice: it goes by the time of creation and then by the user name, and
no two operators of an orderly directory share a user name. So two directories with the same entries
give the same listing, and what a filter lets through can be said without the sorting.

## Main results

* `accepts_eq_true_iff` — the test of a filter means what the filter asks for.
* `Orderly.matched_eq_of_perm` — the order of the entries does not matter.
* `mem_matched_iff`, `Orderly.nodup_ids_matched`, `Orderly.pairwise_matched` — the matches are the
  operators that fit, each once, the newest first.
* `sum_total_list` — every operator has one state, so the totals by state add up.
* `list_determined_by_records` — all of this for every directory that a run leads to.
-/

namespace StudyHall.Directory

open Text

variable {d : Directory} {f : Filter}

/-! ## What a filter asks for -/

/-- An operator is what a filter asks for: in one of the states, if there are any, in the role, if
there is one, and with a user name that holds the text, if there is one, in any case. -/
structure Filter.Fits (f : Filter) (o : Operator) : Prop where
  status : f.statuses = [] ∨ o.status ∈ f.statuses
  role : ∀ r, f.role = some r → o.role = r
  username : ∀ n, f.username = some n →
    n = "" ∨ (lowercase n).toList <:+: (lowercase o.username).toList

theorem accepts_eq_true_iff {o : Operator} : f.accepts o = true ↔ f.Fits o := by
  have named : (f.username.all fun n =>
        n.isEmpty || occursIn (lowerChars n.toList) (lowerChars o.username.toList)) = true
      ↔ ∀ n, f.username = some n →
        n = "" ∨ (lowercase n).toList <:+: (lowercase o.username).toList := by
    cases f.username with
    | none => simp
    | some n => simp [lowercase, occursIn_eq_true_iff]
  have inRole : (f.role.all fun r => o.role == r) = true
      ↔ ∀ r, f.role = some r → o.role = r := by
    cases f.role with
    | none => simp
    | some r => simp
  rw [Filter.accepts, Bool.and_eq_true, Bool.and_eq_true, named, inRole]
  simp only [Bool.or_eq_true, List.isEmpty_iff, List.contains_eq_mem, decide_eq_true_eq]
  constructor
  · rintro ⟨⟨status, role⟩, username⟩
    exact ⟨status, role, username⟩
  · rintro ⟨status, role, username⟩
    exact ⟨⟨status, role⟩, username⟩

instance (f : Filter) (o : Operator) : Decidable (f.Fits o) :=
  decidable_of_iff (f.accepts o = true) accepts_eq_true_iff

/-- Which states are listed matters, not how often or in which order. -/
theorem accepts_of_same_statuses {statuses : List OperatorStatus}
    (same : ∀ s, s ∈ statuses ↔ s ∈ f.statuses) :
    Filter.accepts { f with statuses } = f.accepts := by
  have empty : statuses = [] ↔ f.statuses = [] := by
    simp only [List.eq_nil_iff_forall_not_mem, same]
  funext o
  rw [Bool.eq_iff_iff, accepts_eq_true_iff, accepts_eq_true_iff]
  constructor
  · rintro ⟨status, role, username⟩
    exact ⟨status.imp empty.mp (same o.status).mp, role, username⟩
  · rintro ⟨status, role, username⟩
    exact ⟨status.imp empty.mpr (same o.status).mpr, role, username⟩

/-! ## The order of a listing -/

/-- An operator comes before another one in a listing: as the newer one, or as the one of the same
age whose user name comes first, character by character. -/
def Precedes (a b : Operator) : Prop :=
  b.createdAt.isBefore a.createdAt = true ∨ a.createdAt = b.createdAt ∧ a.username < b.username

theorem listedBefore_eq_true_iff {a b : Operator} :
    listedBefore a b = true ↔
      b.createdAt.isBefore a.createdAt = true
        ∨ a.createdAt = b.createdAt ∧ a.username ≤ b.username := by
  simp [listedBefore]

theorem listedBefore_trans (a b c : Operator) (ab : listedBefore a b = true)
    (bc : listedBefore b c = true) : listedBefore a c = true := by
  rw [listedBefore_eq_true_iff] at ab bc ⊢
  rcases ab with newer | ⟨age, name⟩
  · rcases bc with newer' | ⟨age', -⟩
    · exact .inl (Instant.isBefore_trans newer' newer)
    · exact .inl (age' ▸ newer)
  · rcases bc with newer' | ⟨age', name'⟩
    · exact .inl (age ▸ newer')
    · exact .inr ⟨age.trans age', String.le_trans name name'⟩

theorem listedBefore_total (a b : Operator) :
    (listedBefore a b || listedBefore b a) = true := by
  rw [Bool.or_eq_true, listedBefore_eq_true_iff, listedBefore_eq_true_iff]
  rcases Instant.isBefore_or_eq a.createdAt b.createdAt with older | age | newer
  · exact .inr (.inl older)
  · exact (String.le_total a.username b.username).imp (fun name => .inr ⟨age, name⟩)
      fun name => .inr ⟨age.symm, name⟩
  · exact .inl (.inl newer)

/-- Two operators that may stand in either order share their user name. -/
theorem username_eq_of_listedBefore {a b : Operator} (ab : listedBefore a b = true)
    (ba : listedBefore b a = true) : a.username = b.username := by
  rw [listedBefore_eq_true_iff] at ab ba
  rcases ab with newer | ⟨age, name⟩
  · rcases ba with newer' | ⟨age, -⟩
    · exact absurd newer' (Instant.isBefore_asymm newer)
    · rw [age] at newer
      exact absurd newer (Instant.isBefore_irrefl _)
  · rcases ba with newer' | ⟨-, name'⟩
    · rw [age] at newer'
      exact absurd newer' (Instant.isBefore_irrefl _)
    · exact String.le_antisymm name name'

/-- Operators in the order of a listing that do not share their user name precede each other. -/
theorem precedes_of_listedBefore {a b : Operator} (ab : listedBefore a b = true)
    (other : a.username ≠ b.username) : Precedes a b := by
  rw [listedBefore_eq_true_iff] at ab
  rcases ab with newer | ⟨age, name⟩
  · exact .inl newer
  · refine .inr ⟨age, ?_⟩
    rw [← String.not_le]
    exact fun name' => other (String.le_antisymm name name')

/-! ## Matches -/

theorem perm_matched (d : Directory) (f : Filter) :
    (d.matched f).Perm (d.operators.filter f.accepts) :=
  List.mergeSort_perm _ _

theorem sorted_matched (d : Directory) (f : Filter) :
    (d.matched f).Pairwise fun a b => listedBefore a b = true :=
  List.pairwise_mergeSort listedBefore_trans listedBefore_total _

theorem mem_operators_iff {o : Operator} : o ∈ d.operators ↔ ∃ id, d.get? id = some o := by
  simp only [operators, List.mem_map, Prod.exists, exists_eq_right, get?_eq_some_iff]

theorem mem_matched_iff {o : Operator} :
    o ∈ d.matched f ↔ f.Fits o ∧ ∃ id, d.get? id = some o := by
  rw [(perm_matched d f).mem_iff, List.mem_filter, mem_operators_iff, accepts_eq_true_iff,
    and_comm]

namespace Orderly

theorem nodup_ids (orderly : d.Orderly) : (d.operators.map Operator.id).Nodup := by
  have keys : d.operators.map Operator.id = d.entries.map Prod.fst := by
    rw [operators, List.map_map]
    apply List.map_congr_left
    intro e mem
    exact orderly.keyed (get?_eq_some_iff.mpr mem)
  rw [keys]
  exact d.nodup_keys

theorem eq_of_username (orderly : d.Orderly) {a b : Operator} (ha : a ∈ d.operators)
    (hb : b ∈ d.operators) (same : a.username = b.username) : a = b := by
  obtain ⟨i, hi⟩ := mem_operators_iff.mp ha
  obtain ⟨j, hj⟩ := mem_operators_iff.mp hb
  by_cases key : i = j
  · subst key
    exact Option.some.inj (hi.symm.trans hj)
  · exact absurd (congrArg lowercase same) (orderly.usernames hi hj key)

theorem mem_operators_of_matched {o : Operator} (mem : o ∈ d.matched f) : o ∈ d.operators :=
  mem_operators_iff.mpr (mem_matched_iff.mp mem).2

theorem nodup_ids_matched (orderly : d.Orderly) (f : Filter) :
    ((d.matched f).map Operator.id).Nodup := by
  refine ((perm_matched d f).map Operator.id).nodup_iff.mpr ?_
  exact orderly.nodup_ids.sublist ((List.filter_sublist).map _)

theorem pairwise_matched (orderly : d.Orderly) (f : Filter) : (d.matched f).Pairwise Precedes := by
  have once : (d.matched f).Nodup :=
    List.Pairwise.of_map Operator.id (fun a b other same => other (congrArg _ same))
      (orderly.nodup_ids_matched f)
  refine ((sorted_matched d f).and once).imp_of_mem fun ha hb ⟨before, other⟩ => ?_
  refine precedes_of_listedBefore before fun same => other ?_
  exact orderly.eq_of_username (mem_operators_of_matched ha) (mem_operators_of_matched hb) same

/-- The order of the entries does not show: both lists of matches are sorted and hold the same
operators, and two of these that could change places would be one. -/
theorem matched_eq_of_perm (orderly : d.Orderly) {d' : Directory}
    (same : d'.entries.Perm d.entries) (f : Filter) : d'.matched f = d.matched f := by
  have operators : d'.operators.Perm d.operators := same.map Prod.snd
  have matches' : (d'.matched f).Perm (d.matched f) :=
    ((perm_matched d' f).trans (operators.filter f.accepts)).trans (perm_matched d f).symm
  refine matches'.eq_of_pairwise (fun a b ha hb ab ba => ?_) (sorted_matched d' f)
    (sorted_matched d f)
  exact orderly.eq_of_username (mem_operators_of_matched (matches'.mem_iff.mp ha))
    (mem_operators_of_matched hb) (username_eq_of_listedBefore ab ba)

end Orderly

/-! ## Pages and totals -/

/-- A page shows a stretch of the matches. -/
theorem items_list_infix (d : Directory) (f : Filter) : (d.list f).items <:+: d.matched f :=
  (List.take_prefix _ _).isInfix.trans (List.drop_suffix _ _).isInfix

theorem total_list (d : Directory) (f : Filter) :
    (d.list f).info.total = (d.operators.filter f.accepts).length :=
  (perm_matched d f).length_eq

/-- Every operator has one of the four states, so the matches by state are all matches. -/
theorem sum_total_list (d : Directory) (f : Filter) :
    (OperatorStatus.all.map fun s => (d.list { f with statuses := [s] }).info.total).sum
      = (d.list { f with statuses := [] }).info.total := by
  have split (o : Operator) (s : OperatorStatus) :
      Filter.accepts { f with statuses := [s] } o
        = (o.status == s && Filter.accepts { f with statuses := [] } o) := by
    simp [Filter.accepts, Bool.and_assoc, Bool.beq_eq_decide_eq]
  simp only [total_list, OperatorStatus.all, List.map_cons, List.map_nil, List.sum_cons,
    List.sum_nil]
  induction d.operators with
  | nil => rfl
  | cons o os ih =>
      simp only [List.filter_cons, split o]
      cases Filter.accepts { f with statuses := [] } o with
      | false => simpa using ih
      | true =>
          cases o.status <;> simp <;> omega

/-! ## Listings after a run -/

/-- After every run, a listing does not depend on the order in which the directory keeps its
entries. What is cut into pages are the operators that fit the filter, each once, the newest first
and by user name where the age is equal; the total is their number. To name a state twice changes
nothing, and the totals by state add up to that of all states. -/
theorem list_determined_by_records (p : Option AdminProfile) (steps : List (Clock × Operation))
    (f : Filter) :
    let d := (initial p).run steps
    (∀ d' : Directory, d'.entries.Perm d.entries → d'.list f = d.list f)
      ∧ (∀ o, o ∈ d.matched f ↔ f.Fits o ∧ ∃ id, d.get? id = some o)
      ∧ ((d.matched f).map Operator.id).Nodup
      ∧ (d.matched f).Pairwise Precedes
      ∧ (d.list f).items <:+: d.matched f
      ∧ (d.list f).info.total = (d.matched f).length
      ∧ (∀ statuses, (∀ s, s ∈ statuses ↔ s ∈ f.statuses) →
          d.list { f with statuses } = d.list f)
      ∧ (OperatorStatus.all.map fun s => (d.list { f with statuses := [s] }).info.total).sum
          = (d.list { f with statuses := [] }).info.total := by
  intro d
  have orderly : d.Orderly := (orderly_initial p).run steps
  refine ⟨fun d' same => ?_, fun o => mem_matched_iff, orderly.nodup_ids_matched f,
    orderly.pairwise_matched f, items_list_infix d f, rfl, fun statuses same => ?_,
    sum_total_list d f⟩
  · unfold list
    rw [orderly.matched_eq_of_perm same f]
  · unfold list matched
    rw [accepts_of_same_statuses same]
    rfl

theorem list_determined_by_records_sample :
    let d := (initial none).run sampleSteps
    let f : Filter := { statuses := [.suspended], username := some "A" }
    ∃ d' : Directory, d'.entries.Perm d.entries ∧ d'.entries ≠ d.entries
      ∧ d'.list f = d.list f
      ∧ d.list { f with statuses := [.suspended, .suspended] } = d.list f
      ∧ (d.list f).items.map Operator.username = ["ada"] := by
  intro d f
  obtain ⟨unordered, -, -, -, -, -, repeated, -⟩ :=
    list_determined_by_records none sampleSteps f
  let d' : Directory := ⟨d.entries.reverse,
    ((List.reverse_perm d.entries).map Prod.fst).nodup_iff.mpr d.nodup_keys⟩
  have same : d'.entries.Perm d.entries := List.reverse_perm d.entries
  exact ⟨d', same, by decide +kernel, unordered d' same,
    repeated [.suspended, .suspended] (by simp [f]), by decide +kernel⟩

end StudyHall.Directory
