import StudyHall.Console.Operator
import StudyHall.Domain.Entries
import StudyHall.Domain.Fault
import StudyHall.Text.Numeral

/-!
# The directory of operators

A directory keeps the record of every operator under a key, each key once, in no order that an
answer could show. That the key of a record is its id, and that no two operators share a user name
or an e-mail address, is not part of the type: the operations see to it. User names and e-mail
addresses are compared without regard to case over every alphabet.

## Main definitions

* `Directory.create`, `update` and `delete` change one operator or refuse.
* `Directory.bulkStatus` and `bulkDelete` work through a list of ids.
* `Directory.list` filters, sorts by age and name, and cuts out a page.

## Main results

* `get?_eq_some_iff` reads `get?` as membership of an entry.
* `get?_insert`, `get?_erase`, `get?_modify` say what each change of an entry does to `get?`, and
  `size_insert`, `size_erase`, `size_modify` what it does to the number of operators.
* `create_eq_ok_iff`, `update_eq_ok_iff`, `delete_eq_ok_iff` say when an operation succeeds, and
  with what.
-/

namespace StudyHall

open Text

/-- Records of operators under pairwise different keys. -/
structure Directory where
  entries : List (Uuid × Operator)
  nodup_keys : (entries.map Prod.fst).Nodup

namespace Directory

/-! ## Looking up -/

/-- The directory without operators. -/
def empty : Directory := ⟨[], by simp⟩

/-- The directory of the first operator alone. -/
def seeded (p : AdminProfile) : Directory := ⟨[(p.id, p.toOperator)], by simp⟩

/-- The records of a directory. -/
def operators (d : Directory) : List Operator := d.entries.map Prod.snd

/-- The number of operators. -/
def size (d : Directory) : Nat := d.entries.length

/-- Whether there is no operator. -/
def isEmpty (d : Directory) : Bool := d.entries.isEmpty

/-- The operator under a key. -/
def get? (d : Directory) (id : Uuid) : Option Operator :=
  d.entries.lookup id

/-! ## Names already taken -/

/-- Equality without regard to case. -/
def sameIgnoringCase (a b : String) : Bool :=
  a == b || lowercase a == lowercase b

/-- Whether an operator other than the excepted one has a text in a field. -/
def taken (d : Directory) (field : Operator → String) (text : String) (except : Option Uuid) :
    Bool :=
  d.operators.any fun o => some o.id != except && sameIgnoringCase (field o) text

/-- Whether an operator other than the excepted one has a user name. -/
def usernameTaken (d : Directory) (username : String) (except : Option Uuid) : Bool :=
  d.taken Operator.username username except

/-- Whether an operator other than the excepted one has an e-mail address. -/
def emailTaken (d : Directory) (email : String) (except : Option Uuid) : Bool :=
  d.taken Operator.email email except

/-! ## Changing entries -/

/-- The directory with a record under its id, in place of the one under that key if there is
one. -/
def insert (d : Directory) (o : Operator) : Directory where
  entries := (o.id, o) :: d.entries.filter fun e => e.1 != o.id
  nodup_keys := by
    simp only [List.map_cons, List.nodup_cons, List.mem_map, List.mem_filter, bne_iff_ne, ne_eq]
    refine ⟨fun ⟨e, he, same⟩ => he.2 same, ?_⟩
    exact d.nodup_keys.sublist ((List.filter_sublist).map _)

/-- The directory without the record under a key. -/
def erase (d : Directory) (id : Uuid) : Directory where
  entries := d.entries.filter fun e => e.1 != id
  nodup_keys := d.nodup_keys.sublist ((List.filter_sublist).map _)

/-- The directory after a change of the record under a key. -/
def modify (d : Directory) (id : Uuid) (f : Operator → Operator) : Directory where
  entries := d.entries.map fun e => if e.1 = id then (e.1, f e.2) else e
  nodup_keys := by
    have keys : (d.entries.map fun e => if e.1 = id then (e.1, f e.2) else e).map Prod.fst
        = d.entries.map Prod.fst := by
      rw [List.map_map]
      apply List.map_congr_left
      intro e _
      simp only [Function.comp_apply]
      split <;> rfl
    rw [keys]
    exact d.nodup_keys

/-! ## The view by key -/

theorem get?_eq_some_iff {d : Directory} {id : Uuid} {o : Operator} :
    d.get? id = some o ↔ (id, o) ∈ d.entries :=
  lookup_eq_some_iff_mem d.nodup_keys

theorem get?_insert (d : Directory) (o : Operator) (id : Uuid) :
    (d.insert o).get? id = if id = o.id then some o else d.get? id := by
  apply Option.ext
  intro p
  rw [get?_eq_some_iff]
  by_cases same : id = o.id
  · simp [insert, same, eq_comm]
  · simp [insert, same, get?_eq_some_iff]

theorem size_insert {d : Directory} {o : Operator} (absent : d.get? o.id = none) :
    (d.insert o).size = d.size + 1 := by
  have others : ∀ e ∈ d.entries, (e.1 != o.id) = true := by
    intro e mem
    rw [bne_iff_ne]
    intro same
    have present : d.get? o.id = some e.2 := get?_eq_some_iff.mpr (same ▸ mem)
    rw [absent] at present
    cases present
  simp only [size, insert, List.length_cons, List.filter_eq_self.mpr others]

theorem get?_erase (d : Directory) (key id : Uuid) :
    (d.erase key).get? id = if id = key then none else d.get? id := by
  apply Option.ext
  intro p
  rw [get?_eq_some_iff]
  by_cases same : id = key
  · simp [erase, same]
  · simp [erase, same, get?_eq_some_iff]

theorem size_erase {d : Directory} {id : Uuid} (present : (d.get? id).isSome) :
    (d.erase id).size + 1 = d.size := by
  obtain ⟨o, ho⟩ := Option.isSome_iff_exists.mp present
  have mem := get?_eq_some_iff.mp ho
  have nodup := d.nodup_keys
  show (d.entries.filter fun e => e.1 != id).length + 1 = d.entries.length
  generalize d.entries = es at mem nodup ⊢
  induction es with
  | nil => cases mem
  | cons e es ih =>
      obtain ⟨fresh, nodup⟩ := List.nodup_cons.mp nodup
      by_cases same : e.1 = id
      · have others : ∀ f ∈ es, (f.1 != id) = true := fun f hf =>
          bne_iff_ne.mpr fun eq => fresh (List.mem_map.mpr ⟨f, hf, eq.trans same.symm⟩)
        rw [List.filter_cons_of_neg (by simp [same]), List.filter_eq_self.mpr others,
          List.length_cons]
      · have later : (id, o) ∈ es := by
          cases List.mem_cons.mp mem with
          | inl eq => exact absurd (congrArg Prod.fst eq).symm same
          | inr later => exact later
        rw [List.filter_cons_of_pos (by simp [same]), List.length_cons, List.length_cons,
          ih later nodup]

theorem size_modify (d : Directory) (key : Uuid) (f : Operator → Operator) :
    (d.modify key f).size = d.size :=
  List.length_map _

theorem get?_modify (d : Directory) (key id : Uuid) (f : Operator → Operator) :
    (d.modify key f).get? id = if id = key then (d.get? id).map f else d.get? id := by
  apply Option.ext
  intro p
  rw [get?_eq_some_iff]
  simp only [modify, List.mem_map]
  by_cases same : id = key
  · subst same
    simp only [if_true, Option.map_eq_some_iff, get?_eq_some_iff]
    constructor
    · rintro ⟨⟨key, q⟩, mem, moved⟩
      split at moved
      · next e =>
          cases moved
          exact ⟨q, e ▸ mem, rfl⟩
      · next e =>
          cases moved
          exact absurd rfl e
    · rintro ⟨q, mem, rfl⟩
      exact ⟨(id, q), mem, if_pos rfl⟩
  · simp only [if_neg same, get?_eq_some_iff]
    constructor
    · rintro ⟨⟨k, q⟩, mem, moved⟩
      split at moved
      · next e =>
          cases moved
          exact absurd e same
      · exact moved ▸ mem
    · intro mem
      exact ⟨(id, p), mem, if_neg same⟩

/-- A text is taken exactly when some record other than the excepted one agrees with it up to
case. -/
theorem taken_eq_true_iff {d : Directory} {field : Operator → String} {text : String}
    {except : Option Uuid} :
    d.taken field text except = true ↔
      ∃ id o, d.get? id = some o ∧ some o.id ≠ except ∧
        lowercase (field o) = lowercase text := by
  have same (a b : String) : sameIgnoringCase a b = true ↔ lowercase a = lowercase b := by
    simp only [sameIgnoringCase, Bool.or_eq_true, beq_iff_eq, or_iff_right_iff_imp]
    exact congrArg lowercase
  simp only [taken, operators, List.any_eq_true, List.mem_map, Prod.exists, Bool.and_eq_true,
    bne_iff_ne, same, get?_eq_some_iff]
  constructor
  · rintro ⟨o, ⟨id, p, mem, rfl⟩, found⟩
    exact ⟨id, p, mem, found⟩
  · rintro ⟨id, o, mem, found⟩
    exact ⟨o, ⟨id, o, mem, rfl⟩, found⟩

/-! ## Changing single operators -/

/-- A new operator under an id that is not in use; the user name is checked before the e-mail
address. -/
def create (d : Directory) (id : Uuid) (now : Instant) (new : NewOperator) :
    Except ConsoleError (Operator × Directory) :=
  if d.usernameTaken new.username none then .error .duplicateUsername
  else if d.emailTaken new.email none then .error .duplicateEmail
  else
    let o := new.toOperator id now
    .ok (o, d.insert o)

/-- A patch of one operator; only a user name or an e-mail address that differs from the
current one is checked. -/
def update (d : Directory) (id : Uuid) (now : Instant) (patch : OperatorPatch) :
    Except ConsoleError (Operator × Directory) :=
  match d.get? id with
  | none => .error .userNotFound
  | some o =>
      if patch.username.any fun n => n != o.username && d.usernameTaken n (some id) then
        .error .duplicateUsername
      else if patch.email.any fun e => e != o.email && d.emailTaken e (some id) then
        .error .duplicateEmail
      else .ok (patch.apply now o, d.modify id (patch.apply now))

/-- The directory without one operator. -/
def delete (d : Directory) (id : Uuid) : Except ConsoleError Directory :=
  match d.get? id with
  | none => .error .userNotFound
  | some _ => .ok (d.erase id)

theorem create_eq_ok_iff {d d' : Directory} {id : Uuid} {now : Instant} {new : NewOperator}
    {o : Operator} :
    d.create id now new = .ok (o, d') ↔
      d.usernameTaken new.username none = false ∧ d.emailTaken new.email none = false
        ∧ new.toOperator id now = o ∧ d.insert o = d' := by
  unfold create
  split
  · next taken => simp [taken]
  · next freeName =>
      split
      · next taken => simp [taken]
      · next freeEmail =>
          simp only [Except.ok.injEq, Prod.mk.injEq, Bool.eq_false_iff.mpr freeName,
            Bool.eq_false_iff.mpr freeEmail, true_and]
          constructor
          · rintro ⟨rfl, rfl⟩
            exact ⟨rfl, rfl⟩
          · rintro ⟨rfl, rfl⟩
            exact ⟨rfl, rfl⟩

theorem update_eq_ok_iff {d d' : Directory} {id : Uuid} {now : Instant} {patch : OperatorPatch}
    {o : Operator} :
    d.update id now patch = .ok (o, d') ↔
      ∃ current, d.get? id = some current
        ∧ (patch.username.any fun n => n != current.username && d.usernameTaken n (some id)) = false
        ∧ (patch.email.any fun e => e != current.email && d.emailTaken e (some id)) = false
        ∧ patch.apply now current = o ∧ d.modify id (patch.apply now) = d' := by
  unfold update
  split
  · next absent => simp [absent]
  · next current present =>
      simp only [present, Option.some.injEq, exists_eq_left']
      split
      · next taken => simp [taken]
      · next nameCheck =>
          split
          · next taken => simp [taken]
          · next emailCheck =>
              simp only [Bool.eq_false_iff.mpr nameCheck, Bool.eq_false_iff.mpr emailCheck,
                Except.ok.injEq, Prod.mk.injEq, true_and]

theorem delete_eq_ok_iff {d d' : Directory} {id : Uuid} :
    d.delete id = .ok d' ↔ (d.get? id).isSome ∧ d.erase id = d' := by
  unfold delete
  split
  · next absent => simp [absent]
  · next present => simp [present]

/-! ## Changing many operators -/

/-- A state set on every listed operator, and how many listed ids were found, each as often as it
is listed. The clock is looked at anew for each of them. -/
def bulkStatus (d : Directory) (clock : Clock) (status : OperatorStatus) :
    List Uuid → Nat × Directory
  | [] => (0, d)
  | id :: ids =>
      match d.get? id with
      | some _ =>
          let r := (d.modify id (Operator.setStatus status clock.first)).bulkStatus clock.later
            status ids
          (r.1 + 1, r.2)
      | none => d.bulkStatus clock.later status ids

/-- The directory without the listed operators, and how many were removed. -/
def bulkDelete (d : Directory) : List Uuid → Nat × Directory
  | [] => (0, d)
  | id :: ids =>
      match d.get? id with
      | some _ =>
          let r := (d.erase id).bulkDelete ids
          (r.1 + 1, r.2)
      | none => d.bulkDelete ids

theorem get?_bulkDelete (d : Directory) (ids : List Uuid) (id : Uuid) :
    (d.bulkDelete ids).2.get? id = if id ∈ ids then none else d.get? id := by
  induction ids generalizing d with
  | nil => simp [bulkDelete]
  | cons key ids ih =>
      unfold bulkDelete
      split
      · simp only [ih, get?_erase, List.mem_cons]
        by_cases same : id = key <;> simp [same]
      · next absent =>
          simp only [ih, List.mem_cons]
          by_cases same : id = key <;> simp [same, absent]

theorem size_bulkStatus (d : Directory) (clock : Clock) (status : OperatorStatus)
    (ids : List Uuid) : (d.bulkStatus clock status ids).2.size = d.size := by
  induction ids generalizing d clock with
  | nil => rfl
  | cons id ids ih =>
      unfold bulkStatus
      split
      · simp only [ih, size_modify]
      · exact ih d clock.later

/-- An id that is listed again is no longer there, so every removal is counted once. -/
theorem size_bulkDelete (d : Directory) (ids : List Uuid) :
    (d.bulkDelete ids).2.size + (d.bulkDelete ids).1 = d.size := by
  induction ids generalizing d with
  | nil => rfl
  | cons id ids ih =>
      unfold bulkDelete
      split
      · next o present =>
          have removed : (d.erase id).size + 1 = d.size := size_erase (by rw [present]; rfl)
          have rest := ih (d.erase id)
          simp only
          omega
      · exact ih d

/-! ## Pages -/

/-- What a listing asks for; a page or a page size of zero stands for the usual one. -/
structure Filter where
  page : Nat := 1
  pageSize : Nat := 20
  statuses : List OperatorStatus := []
  role : Option OperatorRole := none
  username : Option String := none
  deriving DecidableEq

/-- The page that is meant. -/
def Filter.effectivePage (f : Filter) : Nat :=
  if f.page = 0 then 1 else f.page

/-- The page size that is meant. -/
def Filter.effectiveSize (f : Filter) : Nat :=
  if f.pageSize = 0 then 20 else f.pageSize

/-- Whether an operator satisfies a filter. -/
def Filter.accepts (f : Filter) (o : Operator) : Bool :=
  (f.statuses.isEmpty || f.statuses.contains o.status)
    && f.role.all (fun r => o.role == r)
    && f.username.all fun n =>
      n.isEmpty || occursIn (lowerChars n.toList) (lowerChars o.username.toList)

/-- The order of a listing: the newest first, and by user name where the age is equal. -/
def listedBefore (a b : Operator) : Bool :=
  b.createdAt.isBefore a.createdAt || (a.createdAt == b.createdAt && a.username ≤ b.username)

/-- The operators that a filter accepts, in the order of a listing. -/
def matched (d : Directory) (f : Filter) : List Operator :=
  (d.operators.filter f.accepts).mergeSort listedBefore

/-- The page, its size and the number of all matches. -/
structure PageMeta where
  page : Nat
  pageSize : Nat
  total : Nat
  deriving DecidableEq, Repr

/-- One page of a listing. -/
structure Page where
  items : List Operator
  info : PageMeta
  deriving DecidableEq

/-- The sum and product of counts stop at the greatest number of 64 bits. -/
def saturate (n : Nat) : Nat := min n Text.maxWord64

/-- The place among all matches where a page begins. -/
def Filter.start (f : Filter) (total : Nat) : Nat :=
  min (saturate ((f.effectivePage - 1) * f.effectiveSize)) total

/-- The place among all matches where a page ends. -/
def Filter.stop (f : Filter) (total : Nat) : Nat :=
  min (saturate (f.start total + f.effectiveSize)) total

/-- One page of the operators that a filter accepts. -/
def list (d : Directory) (f : Filter) : Page :=
  let all := d.matched f
  let total := all.length
  ⟨(all.drop (f.start total)).take (f.stop total - f.start total),
    ⟨f.effectivePage, f.effectiveSize, total⟩⟩

/-! ## Invitations -/

/-- How long an invitation can be used: 72 hours. -/
def inviteSpan : Span := Span.seconds (72 * 3600)

/-- The receipt of an invitation. -/
structure InviteReceipt where
  invited : Bool
  expiresAt : Instant
  deriving DecidableEq

/-- An invitation: nothing is kept and nobody is told. -/
def invite? (now : Instant) : Option InviteReceipt :=
  (now.after? inviteSpan).map fun t => ⟨true, t⟩

end Directory

end StudyHall
