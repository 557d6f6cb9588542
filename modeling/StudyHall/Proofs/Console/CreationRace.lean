import StudyHall.Proofs.Console.LastWrite

/-!
# Creations that race for a user name

Several requests ask for a new operator under one user name that nobody has yet. Each of them is
carried out as a whole, so all that is left open is the order. The first one takes the name; every
later one finds it taken, is refused before its e-mail address is looked at, and changes nothing.

## Main results

* `taken_insert` — a text is taken as soon as a record with it is there.
* `performUnder_create_of_unused`, `performUnder_create_of_taken` — the two ends of a creation.
* `history_of_taken` — creations under names that are taken leave the directory as it is.
* `one_creation_wins` — in every order, one request succeeds and all others are refused.
-/

namespace StudyHall.Directory

open Text

variable {d : Directory}

/-! ## Requests -/

/-- A request for a new operator as it is carried out: under a clock and with the identifier that
is drawn for it. -/
structure Creation where
  clock : Clock
  id : Uuid
  new : NewOperator

namespace Creation

/-- The record that a creation makes. -/
def record (c : Creation) : Operator :=
  c.new.toOperator c.id c.clock.first

/-- A creation as a step of a run. -/
def step (c : Creation) : Clock × Operation :=
  (c.clock, .create c.id c.new)

/-- A creation that succeeded, as an observer notes it. -/
def success (c : Creation) : Event :=
  ⟨c.clock, .create c.id c.new, .operator c.record⟩

/-- A creation that was refused because of its user name. -/
def refusal (c : Creation) : Event :=
  ⟨c.clock, .create c.id c.new, .failed (.refused .duplicateUsername)⟩

end Creation

/-- No record has a text in a field, not even in other case. -/
def Unused (d : Directory) (field : Operator → String) (text : String) : Prop :=
  ∀ ⦃id o⦄, d.get? id = some o → lowercase (field o) ≠ lowercase text

theorem taken_eq_false_iff {field : Operator → String} {text : String} :
    d.taken field text none = false ↔ d.Unused field text := by
  rw [← Bool.not_eq_true, taken_eq_true_iff]
  constructor
  · intro free id o ho same
    exact free ⟨id, o, ho, by simp, same⟩
  · rintro unused ⟨id, o, ho, -, same⟩
    exact unused ho same

/-- A text is taken as soon as a record with it is there, in whatever case. -/
theorem taken_insert (d : Directory) {o : Operator} {field : Operator → String} {text : String}
    (same : lowercase (field o) = lowercase text) : (d.insert o).taken field text none = true := by
  refine taken_eq_true_iff.mpr ⟨o.id, o, ?_, by simp, same⟩
  rw [get?_insert, if_pos rfl]

/-! ## One creation -/

theorem performUnder_create_of_unused {c : Creation}
    (name : d.Unused Operator.username c.new.username)
    (email : d.Unused Operator.email c.new.email) :
    d.performUnder c.clock (.create c.id c.new) = (.operator c.record, d.insert c.record) := by
  have done : d.create c.id c.clock.first c.new = .ok (c.record, d.insert c.record) :=
    create_eq_ok_iff.mpr ⟨taken_eq_false_iff.mpr name, taken_eq_false_iff.mpr email, rfl, rfl⟩
  simp only [performUnder, done]

theorem performUnder_create_of_taken {c : Creation}
    (taken : d.usernameTaken c.new.username none = true) :
    d.performUnder c.clock (.create c.id c.new)
      = (.failed (.refused .duplicateUsername), d) := by
  simp only [performUnder, create, taken, if_true]

/-! ## Creations in a row -/

/-- Creations under names that are taken are refused one after the other. -/
theorem history_of_taken {cs : List Creation}
    (taken : ∀ c ∈ cs, d.usernameTaken c.new.username none = true) :
    d.run (cs.map Creation.step) = d
      ∧ d.history (cs.map Creation.step) = cs.map Creation.refusal := by
  induction cs with
  | nil => exact ⟨rfl, rfl⟩
  | cons c cs ih =>
      have refused := performUnder_create_of_taken (taken c List.mem_cons_self)
      obtain ⟨run, history⟩ := ih fun e he => taken e (List.mem_cons_of_mem c he)
      constructor
      · simpa only [List.map_cons, Creation.step, Directory.run, refused] using run
      · simp only [List.map_cons, Creation.step, Directory.history, refused, Creation.refusal]
        exact congrArg (List.cons _) history

/-- Of creations that race for one user name that nobody has, in every order exactly one succeeds:
the one that is carried out first. All others are refused because of the name, and the directory
has gained the one operator. The e-mail addresses need only be unused; whether they differ from each
other is never asked. -/
theorem one_creation_wins (d : Directory) (requests served : List Creation)
    (any : requests ≠ []) (order : served.Perm requests)
    (oneName : ∀ a ∈ requests, ∀ b ∈ requests,
      lowercase a.new.username = lowercase b.new.username)
    (names : ∀ c ∈ requests, d.Unused Operator.username c.new.username)
    (emails : ∀ c ∈ requests, d.Unused Operator.email c.new.email)
    (ids : ∀ c ∈ requests, d.get? c.id = none) :
    ∃ winner losers, served = winner :: losers
      ∧ d.history (served.map Creation.step) = winner.success :: losers.map Creation.refusal
      ∧ d.run (served.map Creation.step) = d.insert winner.record
      ∧ (d.run (served.map Creation.step)).size = d.size + 1 := by
  cases served with
  | nil => exact absurd order.nil_eq.symm any
  | cons winner losers =>
      have mem : winner ∈ requests := order.subset List.mem_cons_self
      have won := performUnder_create_of_unused (names winner mem) (emails winner mem)
      have taken : ∀ c ∈ losers,
          (d.insert winner.record).usernameTaken c.new.username none = true := by
        intro c hc
        exact taken_insert d (oneName winner mem c (order.subset (List.mem_cons_of_mem winner hc)))
      obtain ⟨run, history⟩ := history_of_taken taken
      have after : d.run ((winner :: losers).map Creation.step) = d.insert winner.record := by
        simpa only [List.map_cons, Creation.step, Directory.run, won] using run
      refine ⟨winner, losers, rfl, ?_, after, ?_⟩
      · simp only [List.map_cons, Creation.step, Directory.history, won, Creation.success]
        exact congrArg (List.cons _) history
      · rw [after]
        exact size_insert (ids winner mem)

/-- Three requests for one name in different case, carried out in another order than they came. -/
theorem one_creation_wins_sample :
    let ada : NewOperator := ⟨"Ada", "L", "émile", "a@x", "1", .admin, .active⟩
    let requests : List Creation :=
      [⟨Clock.steady (minute 1), .ofNat 1, ada⟩,
        ⟨Clock.steady (minute 2), .ofNat 2, { ada with username := "ÉMILE", email := "b@x" }⟩,
        ⟨Clock.steady (minute 3), .ofNat 3, { ada with username := "Émile", email := "c@x" }⟩]
    ∃ winner losers, requests.reverse = winner :: losers
      ∧ empty.history (requests.reverse.map Creation.step)
          = winner.success :: losers.map Creation.refusal
      ∧ empty.run (requests.reverse.map Creation.step) = empty.insert winner.record
      ∧ (empty.run (requests.reverse.map Creation.step)).size = empty.size + 1 := by
  intro ada requests
  have nobody (id : Uuid) : empty.get? id = none := rfl
  have unused (field : Operator → String) (text : String) : empty.Unused field text := by
    intro id o present
    cases (nobody id).symm.trans present
  exact one_creation_wins empty requests requests.reverse (by simp [requests])
    (List.reverse_perm requests) (by decide +kernel) (fun c _ => unused _ _)
    (fun c _ => unused _ _) (fun c _ => nobody c.id)

end StudyHall.Directory
