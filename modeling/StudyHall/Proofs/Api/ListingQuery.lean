import Mathlib.Data.List.Nodup
import StudyHall.Proofs.Api.QueryValues
import StudyHall.Proofs.Http.Form
import StudyHall.Service.Console

/-!
# The query of a listing

A listing of operators is asked for by up to five texts. Each of them reaches the reader as it was
meant, however it was written and whatever else stands in the query, and a query in which one of the
five stands twice is refused. After that every text has its own meaning: the user name is taken as
it is, roles and states are named by their codes, and the two numbers count from one on.

## Main results

* `readQuery_eq_error_iff` — a query is refused exactly if a known name stands twice.
* `OperatorsQuery.read_joinWith` — the texts of a listing are read back.
* `OperatorsQuery.filter_eq_ok_iff_means`, `filter_eq_error_iff` — what a listing is filtered by.
* `listing_query_decoded` — all of this for the address of a request.
-/

namespace StudyHall

open Text

/-! ## Known names -/

/-- The names of a query that are known, as often as they stand there. -/
def knownNames (names : List String) (query : List Char) : List String :=
  ((Form.pairs query).filter fun p => names.contains p.1).map Prod.fst

theorem mem_of_mem_knownNames {names : List String} {query : List Char} {name : String}
    (mem : name ∈ knownNames names query) : name ∈ names := by
  obtain ⟨p, kept, rfl⟩ := List.mem_map.mp mem
  exact List.contains_iff_mem.mp (List.mem_filter.mp kept).2

theorem count_knownNames {names : List String} {name : String} (known : name ∈ names)
    (query : List Char) :
    List.count name (knownNames names query) = (Form.valuesOf name query).length := by
  rw [knownNames, Form.valuesOf, List.length_map, ← List.countP_eq_length_filter, List.count,
    List.countP_map, List.countP_filter]
  refine List.countP_congr fun p _ => ?_
  rw [Function.comp_apply, Bool.and_eq_true, beq_iff_eq, List.contains_iff_mem]
  constructor
  · exact And.left
  · rintro rfl
    exact ⟨rfl, known⟩

theorem not_nodup_knownNames_iff {names : List String} {query : List Char} :
    ¬ (knownNames names query).Nodup
      ↔ ∃ name ∈ names, 1 < (Form.valuesOf name query).length := by
  rw [List.nodup_iff_count_le_one, not_forall]
  simp only [Nat.not_le]
  constructor
  · rintro ⟨name, twice⟩
    have there : name ∈ knownNames names query := List.count_pos_iff.mp (by omega)
    have known : name ∈ names := mem_of_mem_knownNames there
    rw [count_knownNames known] at twice
    exact ⟨name, known, twice⟩
  · rintro ⟨name, known, twice⟩
    rw [← count_knownNames known] at twice
    exact ⟨name, twice⟩

/-- A query is refused exactly if a name that is known stands twice. -/
theorem readQuery_eq_error_iff {names : List String} {query : List Char} {e : ApiError} :
    readQuery names query = .error e
      ↔ e = malformedQuery ∧ ∃ name ∈ names, 1 < (Form.valuesOf name query).length := by
  rw [← not_nodup_knownNames_iff, readQuery, Form.expected?, ← knownNames]
  by_cases once : (knownNames names query).Nodup
  · simp only [once, if_true, not_true, and_false, reduceCtorEq]
  · simp only [once, if_false, not_false_iff, and_true, Except.error.injEq, eq_comm]

/-! ## Texts that are present -/

/-- The texts that are present among named ones. -/
def presentTexts (fields : List (String × Option String)) : List (String × String) :=
  fields.filterMap fun f => f.2.map fun text => (f.1, text)

theorem mem_presentTexts_iff {fields : List (String × Option String)} {name text : String} :
    (name, text) ∈ presentTexts fields ↔ (name, some text) ∈ fields := by
  unfold presentTexts
  rw [List.mem_filterMap]
  constructor
  · rintro ⟨⟨other, value⟩, mem, made⟩
    obtain ⟨given, rfl, same⟩ := Option.map_eq_some_iff.mp made
    cases same
    exact mem
  · intro mem
    exact ⟨_, mem, rfl⟩

theorem names_presentTexts (fields : List (String × Option String)) :
    ((presentTexts fields).map Prod.fst).Sublist (fields.map Prod.fst) := by
  unfold presentTexts
  induction fields with
  | nil => exact .slnil
  | cons f fields ih =>
      obtain ⟨name, value⟩ := f
      cases value with
      | none => exact ih.cons name
      | some text => exact ih.cons_cons name

theorem nodup_of_perm {fields : List (String × Option String)} {texts : List (String × String)}
    (distinct : (fields.map Prod.fst).Nodup) (order : texts.Perm (presentTexts fields)) :
    (texts.map Prod.fst).Nodup :=
  (order.map Prod.fst).nodup_iff.mpr (distinct.sublist (names_presentTexts fields))

/-- In whichever order the present texts stand, each field is found under its name. -/
theorem lookup_of_perm {fields : List (String × Option String)} {texts : List (String × String)}
    (distinct : (fields.map Prod.fst).Nodup) (order : texts.Perm (presentTexts fields))
    {name : String} {value : Option String} (field : (name, value) ∈ fields) :
    texts.lookup name = value := by
  apply Option.ext
  intro text
  rw [lookup_eq_some_iff_mem (nodup_of_perm distinct order), order.mem_iff, mem_presentTexts_iff]
  constructor
  · intro mem
    have same := List.inj_on_of_nodup_map distinct field mem rfl
    exact congrArg Prod.snd same
  · rintro rfl
    exact field

namespace OperatorsQuery

variable {q : OperatorsQuery}

/-- The names that a listing reads. -/
def names : List String := ["page", "pageSize", "status", "role", "username"]

/-- The texts of a listing under their names. -/
def fields (q : OperatorsQuery) : List (String × Option String) :=
  [("page", q.page), ("pageSize", q.pageSize), ("status", q.status), ("role", q.role),
    ("username", q.username)]

theorem names_fields (q : OperatorsQuery) : q.fields.map Prod.fst = names := rfl

theorem nodup_names_fields (q : OperatorsQuery) : (q.fields.map Prod.fst).Nodup := by
  rw [names_fields]
  decide

/-- The texts of a listing are read back, in whichever order they stand and among whatever else. -/
theorem read_joinWith {texts : List (String × String)} {ws : List (List Char)}
    (order : texts.Perm (presentTexts q.fields)) (lists : Form.Lists names texts ws) :
    read (joinWith ['&'] ws) = .ok q := by
  have distinct := q.nodup_names_fields
  have given : readQuery names (joinWith ['&'] ws) = .ok texts := by
    rw [readQuery, Form.expected?_pairs_of_lists lists (nodup_of_perm distinct order)]
  have found : ∀ f ∈ q.fields, texts.lookup f.1 = f.2 := fun _ => lookup_of_perm distinct order
  simp only [fields, List.forall_mem_cons] at found
  obtain ⟨page, pageSize, status, role, username, -⟩ := found
  rw [read, ← names, given, Except.map, page, pageSize, status, role, username]

/-- A listing is refused if a known name stands twice, and for no other reason. -/
theorem read_eq_error_iff {query : List Char} {e : ApiError} :
    read query = .error e
      ↔ e = malformedQuery ∧ ∃ name ∈ names, 1 < (Form.valuesOf name query).length := by
  rw [← readQuery_eq_error_iff, read, ← names, map_eq_error_iff]

/-! ## What a listing is filtered by -/

/-- What the texts of a listing mean: the user name stands for itself, roles and states are named by
their codes, and the two numbers count from one on. -/
structure Means (q : OperatorsQuery) (f : Directory.Filter) : Prop where
  username : ∀ name, f.username = some name ↔ q.username = some name ∧ name ≠ ""
  role : OperatorRole.AskedBy q.role f.role
  statuses : List.Forall₂ (fun piece (t : OperatorStatus) => t.NamedBy piece)
    (filledPieces (q.status.getD "")) f.statuses
  page : ReadsCount maxWord64 1 q.page f.page
  pageSize : ReadsCount maxWord64 20 q.pageSize f.pageSize

/-- Why a listing is refused whose texts are read: the first piece that names no state, or else a
role that is none. -/
inductive Refuses (q : OperatorsQuery) : ApiError → Prop
  | status {before after : List String} {piece : String}
      (pieces : filledPieces (q.status.getD "") = before ++ piece :: after)
      (known : ∀ p ∈ before, ∃ t : OperatorStatus, t.NamedBy p)
      (unknown : ∀ t : OperatorStatus, ¬ t.NamedBy piece) :
      Refuses q (.validation ("invalid status " ++ lowercase (trim piece)))
  | role {text : String}
      (known : ∀ p ∈ filledPieces (q.status.getD ""), ∃ t : OperatorStatus, t.NamedBy p)
      (given : q.role = some text) (filled : trim text ≠ "")
      (unknown : ∀ r : OperatorRole, ¬ r.NamedBy text) :
      Refuses q (.validation "invalid role")

theorem states_eq (q : OperatorsQuery) : q.states = statusesOf (q.status.getD "") := by
  unfold states
  cases q.status with
  | none => decide
  | some raw => rfl

theorem states_eq_ok_iff {ts : List OperatorStatus} :
    q.states = .ok ts ↔ List.Forall₂ (fun piece (t : OperatorStatus) => t.NamedBy piece)
      (filledPieces (q.status.getD "")) ts := by
  rw [states_eq, statusesOf_eq_ok_iff]
  simp only [OperatorStatus.parse?_eq_some_iff]

theorem exists_states_iff : (∃ ts, q.states = .ok ts)
    ↔ ∀ p ∈ filledPieces (q.status.getD ""), ∃ t : OperatorStatus, t.NamedBy p := by
  simp only [states_eq_ok_iff, exists_forall₂_iff]

/-- A user name is taken as it is given; an empty one asks for nothing. -/
theorem username_filterWith {ts : List OperatorStatus} {role : Option OperatorRole}
    (name : String) :
    (q.filterWith ts role).username = some name ↔ q.username = some name ∧ name ≠ "" := by
  simp [filterWith, Option.filter_eq_some_iff]

/-- A listing is filtered by what its texts mean. -/
theorem filter_eq_ok_iff_means {f : Directory.Filter} : q.filter = .ok f ↔ q.Means f := by
  have page : ReadsCount maxWord64 1 q.page (positive maxWord64 1 q.page) :=
    readsCount_positive (by decide) q.page
  have pageSize : ReadsCount maxWord64 20 q.pageSize (positive maxWord64 20 q.pageSize) :=
    readsCount_positive (by decide) q.pageSize
  rw [filter_eq_ok_iff, states_eq_ok_iff, operatorRoleOf_eq_ok_iff]
  constructor
  · rintro ⟨statuses, role, made⟩
    refine ⟨?_, role, statuses, ?_, ?_⟩
    · rw [made]
      exact username_filterWith
    · rw [made]
      exact page
    · rw [made]
      exact pageSize
  · intro means
    refine ⟨means.statuses, means.role, ?_⟩
    have samePage : f.page = positive maxWord64 1 q.page := means.page.eq page
    have sameSize : f.pageSize = positive maxWord64 20 q.pageSize := means.pageSize.eq pageSize
    have sameName : f.username = (q.filterWith f.statuses f.role).username := by
      apply Option.ext
      intro name
      rw [means.username, username_filterWith]
    obtain ⟨number, size, statuses, role, username⟩ := f
    simp only at samePage sameSize sameName ⊢
    rw [samePage, sameSize, sameName]
    rfl

/-- A listing is refused because of its states first, and because of its role then. -/
theorem filter_eq_error_iff {e : ApiError} : q.filter = .error e ↔ q.Refuses e := by
  have failed : q.filter = .error e ↔ q.states = .error e
      ∨ (∃ ts, q.states = .ok ts) ∧ operatorRoleOf q.role = .error e := by
    rw [filter_eq, bind_eq_error_iff]
    simp only [map_eq_error_iff, exists_and_right]
  rw [failed, exists_states_iff, states_eq, statusesOf_eq_error_iff, operatorRoleOf_eq_error_iff]
  simp only [OperatorStatus.parse?_ne_none_iff, OperatorStatus.parse?_eq_none_iff]
  constructor
  · rintro (⟨before, piece, after, parts, known, unknown, rfl⟩
      | ⟨known, text, given, filled, unknown, rfl⟩)
    · exact .status parts known unknown
    · exact .role known given filled unknown
  · intro refuses
    cases refuses with
    | status parts known unknown => exact .inl ⟨_, _, _, parts, known, unknown, rfl⟩
    | role known given filled unknown => exact .inr ⟨known, _, given, filled, unknown, rfl⟩

end OperatorsQuery

/-- What a listing asks the directory for. -/
theorem DirectoryAction.operation_list {r : Request} {fresh : Uuid} {q : OperatorsQuery}
    (given : OperatorsQuery.read r.target.query = .ok q) :
    DirectoryAction.list.operation r fresh = q.filter.map .list := by
  unfold DirectoryAction.operation
  rw [given]
  show (q.filter >>= fun f => .ok (Directory.Operation.list f)) = q.filter.map .list
  cases q.filter <;> rfl

/-- The texts that a listing is asked for reach it as they were meant, however the query is written,
in whichever order and among whatever else, as long as no known name stands twice; and the directory
is asked for what the texts mean. -/
theorem listing_query_decoded :
    (∀ (q : OperatorsQuery) texts, texts.Perm (presentTexts q.fields) →
        ∃ ws, Form.Lists OperatorsQuery.names texts ws)
      ∧ (∀ (q : OperatorsQuery) texts ws path, texts.Perm (presentTexts q.fields) →
        Form.Lists OperatorsQuery.names texts ws → '?' ∉ path → '#' ∉ path →
        OperatorsQuery.read
            (Target.ofText (String.ofList ('/' :: path ++ '?' :: joinWith ['&'] ws))).query
          = .ok q)
      ∧ (∀ query, OperatorsQuery.read query = .error malformedQuery
        ↔ ∃ name ∈ OperatorsQuery.names, 1 < (Form.valuesOf name query).length)
      ∧ ∀ (r : Request) (fresh : Uuid),
        (∀ e, OperatorsQuery.read r.target.query = .error e →
          DirectoryAction.list.operation r fresh = .error e)
        ∧ ∀ q, OperatorsQuery.read r.target.query = .ok q →
          (∀ op, DirectoryAction.list.operation r fresh = .ok op ↔ ∃ f, op = .list f ∧ q.Means f)
          ∧ ∀ e, DirectoryAction.list.operation r fresh = .error e ↔ q.Refuses e := by
  refine ⟨?_, ?_, ?_, ?_⟩
  · intro q texts order
    apply Form.exists_lists
    intro p mem
    have named : p.1 ∈ q.fields.map Prod.fst := by
      have present := (names_presentTexts q.fields).subset
      exact present (List.mem_map_of_mem (order.mem_iff.mp mem))
    exact named
  · intro q texts ws path order lists unasked whole
    have plain : '#' ∉ joinWith ['&'] ws :=
      not_mem_joinWith (by decide) (lists.not_mem (by decide))
    rw [Target.query_ofText unasked whole plain]
    exact OperatorsQuery.read_joinWith order lists
  · intro query
    rw [OperatorsQuery.read_eq_error_iff]
    exact and_iff_right rfl
  · intro r fresh
    refine ⟨?_, ?_⟩
    · intro e refused
      unfold DirectoryAction.operation
      rw [refused]
      rfl
    · intro q given
      rw [DirectoryAction.operation_list given]
      refine ⟨?_, ?_⟩
      · intro op
        rw [map_eq_ok_iff]
        simp only [OperatorsQuery.filter_eq_ok_iff_means, and_comm]
      · intro e
        rw [map_eq_error_iff, OperatorsQuery.filter_eq_error_iff]

theorem listing_query_decoded_sample :
    DirectoryAction.list.operation
        (.of "GET" "/users?x=%zz&&username=%C3%bC+b&p%61ge=%2b2" [] []) (.ofNat 1)
      = .ok (.list { page := 2, username := some "ü b" }) := by
  let q : OperatorsQuery := { page := some "+2", username := some "ü b" }
  have order : [("username", "ü b"), ("page", "+2")].Perm (presentTexts q.fields) := .swap _ _ _
  have umlaut : Form.Escapes (Utf8.encodeChar 'ü') "%C3%bC".toList :=
    .cons (b := 0xc3) (by decide) (.cons (b := 0xbc) (by decide) .nil)
  have plus : Form.Escapes (Utf8.encodeChar '+') "%2b".toList :=
    .cons (b := 0x2b) (by decide) .nil
  have letter : Form.Escapes (Utf8.encodeChar 'a') "%61".toList :=
    .cons (b := 0x61) (by decide) .nil
  have name : Form.Writes "ü b".toList ("%C3%bC".toList ++ ['+', 'b']) :=
    .escaped (c := 'ü') umlaut (.space (.refl (forall_mem_of_all (by decide))))
  have two : Form.Writes "+2".toList ("%2b".toList ++ ['2']) :=
    .escaped (c := '+') plus (.refl (forall_mem_of_all (by decide)))
  have key : Form.Writes "page".toList ('p' :: ("%61".toList ++ ['g', 'e'])) :=
    .plain (by decide) (.escaped (c := 'a') letter (.refl (forall_mem_of_all (by decide))))
  have username : Form.Writes "username".toList "username".toList :=
    .refl (forall_mem_of_all (by decide))
  have user : Form.WritesPair "username" "ü b" "username=%C3%bC+b".toList :=
    .of username (by decide) name
  have page : Form.WritesPair "page" "+2" "p%61ge=%2b2".toList := .of key (by decide) two
  have lists : Form.Lists OperatorsQuery.names [("username", "ü b"), ("page", "+2")]
      ["x=%zz".toList, [], "username=%C3%bC+b".toList, "p%61ge=%2b2".toList] :=
    .other (by decide) (by decide) (.inr (by decide)) (.other (by decide) (by decide) (.inl rfl)
      (.given (by decide) user (.given (by decide) page .nil)))
  have given := listing_query_decoded.2.1 q _ _ "users".toList order lists (by decide) (by decide)
  have means : q.Means { page := 2, username := some "ü b" } :=
    OperatorsQuery.filter_eq_ok_iff_means.mp rfl
  have asked := listing_query_decoded.2.2.2
    (.of "GET" "/users?x=%zz&&username=%C3%bC+b&p%61ge=%2b2" [] []) (.ofNat 1)
  exact ((asked.2 q given).1 _).mpr ⟨_, rfl, means⟩

end StudyHall
