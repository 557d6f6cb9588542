import StudyHall.Proofs.Domain.Code
import StudyHall.Proofs.Learner.Questions
import StudyHall.Proofs.Text.CodeCase

/-!
# What the values of a query mean

Numbers and lists of states are given as text, and whoever gives them need not write them the way
they would be printed.

A number counts if it is above zero and within the bounds of its type; anything else stands for the
usual one. One of the three readers takes numbers with a sign, which makes no difference above zero.

A list of states is put into lower case by the full mapping before its pieces are read, and a single
state is read by folding ASCII alone. Both ways lead to the same states because no code of a state
has a letter that another character could become.

## Main results

* `readsCount_positive`, `readsCount_places` — the readers of numbers.
* `positive_numbers_read` — what each of them gives.
* `OperatorStatus.parse?_lowercase` — lower case does not change which state is named.
* `statusesOf_eq_ok_iff`, `statusesOf_eq_error_iff` — what a list is read as.
* `status_list_agrees` — a list is read like its pieces.
-/

namespace StudyHall

open Text

/-! ## Numbers above zero -/

/-- A text counts for a number from 1 to `limit`: an optional plus sign and digits, with blanks
around them. -/
structure CountsFor (limit : Nat) (text : String) (n : Nat) : Prop where
  numeral : Unsigned (trimChars text.toList) n
  above : 1 ≤ n
  within : n ≤ limit

/-- The number that an optional text stands for: its own if it counts for one, else the usual
one. -/
structure ReadsCount (limit usual : Nat) (raw : Option String) (n : Nat) : Prop where
  own : ∀ text ∈ raw, ∀ m, CountsFor limit text m → n = m
  other : (∀ text ∈ raw, ∀ m, ¬ CountsFor limit text m) → n = usual
  above : 1 ≤ n

theorem countsFor_iff {limit n : Nat} {text : String} :
    CountsFor limit text n ↔ readUnsigned limit (trimChars text.toList) = .ok n ∧ 1 ≤ n := by
  rw [readUnsigned_eq_ok_iff]
  constructor
  · intro counts
    exact ⟨⟨counts.numeral, counts.within⟩, counts.above⟩
  · rintro ⟨⟨numeral, within⟩, above⟩
    exact ⟨numeral, above, within⟩

/-- An optional text stands for one number. -/
theorem ReadsCount.eq {limit usual m n : Nat} {raw : Option String}
    (hm : ReadsCount limit usual raw m) (hn : ReadsCount limit usual raw n) : m = n := by
  by_cases some : ∃ text ∈ raw, ∃ k, CountsFor limit text k
  · obtain ⟨text, given, k, counts⟩ := some
    rw [hm.own text given k counts, hn.own text given k counts]
  · have none : ∀ text ∈ raw, ∀ k, ¬ CountsFor limit text k := fun text given k counts =>
      some ⟨text, given, k, counts⟩
    rw [hm.other none, hn.other none]

/-- A reader that takes the numbers above zero and falls back to the usual one. -/
theorem ReadsCount.of_reader {limit usual n : Nat} {raw : Option String} (normal : 1 ≤ usual)
    (number : ∀ text ∈ raw, ∀ m,
      readUnsigned limit (trimChars text.toList) = .ok m → 0 < m → n = m)
    (noNumber : (∀ text ∈ raw, ∀ m,
      readUnsigned limit (trimChars text.toList) = .ok m → m = 0) → n = usual) :
    ReadsCount limit usual raw n := by
  have own : ∀ text ∈ raw, ∀ m, CountsFor limit text m → n = m := by
    intro text given m counts
    obtain ⟨read, above⟩ := countsFor_iff.mp counts
    exact number text given m read above
  have other : (∀ text ∈ raw, ∀ m, ¬ CountsFor limit text m) → n = usual := by
    intro none
    apply noNumber
    intro text given m read
    by_contra above
    exact none text given m (countsFor_iff.mpr ⟨read, by omega⟩)
  refine ⟨own, other, ?_⟩
  by_cases some : ∃ text ∈ raw, ∃ m, CountsFor limit text m
  · obtain ⟨text, given, m, counts⟩ := some
    rw [own text given m counts]
    exact counts.above
  · rw [other fun text given m counts => some ⟨text, given, m, counts⟩]
    exact normal

theorem readsCount_positive {limit usual : Nat} (normal : 1 ≤ usual) (raw : Option String) :
    ReadsCount limit usual raw (positive limit usual raw) := by
  apply ReadsCount.of_reader normal
  · intro text given m read above
    obtain rfl : raw = some text := given
    simp only [positive, read, if_pos above]
  · intro noNumber
    unfold positive
    cases raw with
    | none => rfl
    | some text =>
        simp only
        split
        · next m read =>
            have zero := noNumber text rfl m read
            exact if_neg (by omega)
        · rfl

/-- The reader that takes a sign gives the same. -/
theorem readsCount_places (q : LeaderboardQuery) :
    ReadsCount maxInt64 20 q.limit q.effective := by
  apply ReadsCount.of_reader (by decide)
  · intro text given m read above
    obtain ⟨limit⟩ := q
    obtain rfl : limit = some text := given
    exact LearnerPage.effective_of_number read above
  · exact LearnerPage.effective_of_noNumber

/-! ## Filters -/

/-- The states that are asked for; no text asks for none. -/
def OperatorsQuery.states (q : OperatorsQuery) : Except ApiError (List OperatorStatus) :=
  match q.status with
  | some raw => statusesOf raw
  | none => .ok []

/-- The filter with given states and a given role; the other values of a query are never refused. -/
def OperatorsQuery.filterWith (q : OperatorsQuery) (statuses : List OperatorStatus)
    (role : Option OperatorRole) : Directory.Filter where
  page := positive maxWord64 1 q.page
  pageSize := positive maxWord64 20 q.pageSize
  statuses := statuses
  role := role
  username := q.username.filter fun u => !u.isEmpty

theorem OperatorsQuery.filter_eq (q : OperatorsQuery) :
    q.filter = q.states >>= fun statuses =>
      (operatorRoleOf q.role).map (q.filterWith statuses) := by
  unfold OperatorsQuery.filter OperatorsQuery.states
  cases q.status with
  | none => cases operatorRoleOf q.role <;> rfl
  | some raw =>
      simp only
      cases statusesOf raw with
      | error e => rfl
      | ok statuses => cases operatorRoleOf q.role <;> rfl

theorem OperatorsQuery.filter_eq_ok_iff {q : OperatorsQuery} {f : Directory.Filter} :
    q.filter = .ok f ↔
      q.states = .ok f.statuses ∧ operatorRoleOf q.role = .ok f.role
        ∧ f = q.filterWith f.statuses f.role := by
  rw [OperatorsQuery.filter_eq, bind_eq_ok_iff]
  simp only [map_eq_ok_iff]
  constructor
  · rintro ⟨statuses, states, role, asked, rfl⟩
    exact ⟨states, asked, rfl⟩
  · rintro ⟨states, asked, made⟩
    exact ⟨f.statuses, states, f.role, asked, made⟩

/-- Every reader of a number above zero gives the number that is written, within the bounds of its
type, and its usual one otherwise. -/
theorem positive_numbers_read :
    (∀ usual raw, 1 ≤ usual → ReadsCount maxWord64 usual raw (positive maxWord64 usual raw))
      ∧ (∀ (q : OperatorsQuery) f, q.filter = .ok f →
        ReadsCount maxWord64 1 q.page f.page ∧ ReadsCount maxWord64 20 q.pageSize f.pageSize)
      ∧ (∀ q : TopicLimitQuery, ReadsCount maxWord64 5 q.limit q.effective)
      ∧ ∀ q : LeaderboardQuery, ReadsCount maxInt64 20 q.limit q.effective := by
  refine ⟨fun _ raw normal => readsCount_positive normal raw, ?_, ?_, readsCount_places⟩
  · intro q f filtered
    obtain ⟨-, -, made⟩ := OperatorsQuery.filter_eq_ok_iff.mp filtered
    rw [made]
    exact ⟨readsCount_positive (by decide) q.page, readsCount_positive (by decide) q.pageSize⟩
  · intro q
    exact readsCount_positive (by decide) q.limit

theorem positive_numbers_read_sample :
    ∃ f, OperatorsQuery.filter { page := some "\u3000+007 ", pageSize := some "-1" } = .ok f
      ∧ f.page = 7 ∧ f.pageSize = 20 := by
  obtain ⟨page, size⟩ := positive_numbers_read.2.1
    { page := some "\u3000+007 ", pageSize := some "-1" } _ rfl
  have seven : CountsFor maxWord64 "\u3000+007 " 7 := countsFor_iff.mpr ⟨by decide, by decide⟩
  have none : ∀ m, ¬ CountsFor maxWord64 "-1" m := by
    intro m counts
    have read := (countsFor_iff.mp counts).1
    have fails : readUnsigned maxWord64 (trimChars "-1".toList) = .error .invalidDigit := by decide
    rw [fails] at read
    cases read
  refine ⟨_, rfl, page.own _ rfl 7 seven, size.other ?_⟩
  intro text given
  obtain rfl : "-1" = text := Option.some.inj given
  exact none

/-! ## Roles -/

/-- The role that a text asks for; a blank text asks for none. -/
inductive OperatorRole.AskedBy : Option String → Option OperatorRole → Prop
  | absent : AskedBy none none
  | blank {text : String} (blank : trim text = "") : AskedBy (some text) none
  | named {text : String} {r : OperatorRole} (named : r.NamedBy text) : AskedBy (some text) (some r)

/-- A text that names a role is not blank. -/
theorem OperatorRole.NamedBy.filled {text : String} {r : OperatorRole} (named : r.NamedBy text) :
    trim text ≠ "" := by
  intro blank
  rw [OperatorRole.NamedBy, blank] at named
  cases r <;> exact absurd named (by decide)

theorem OperatorRole.parse?_trim (text : String) :
    OperatorRole.parse? (trim text) = OperatorRole.parse? text := by
  unfold OperatorRole.parse?
  rw [trim_trim]

theorem operatorRoleOf_eq_ok_iff {raw : Option String} {role : Option OperatorRole} :
    operatorRoleOf raw = .ok role ↔ OperatorRole.AskedBy raw role := by
  cases raw with
  | none =>
      constructor
      · intro read
        cases read
        exact .absent
      · intro asked
        cases asked
        rfl
  | some text =>
      simp only [operatorRoleOf, Option.map_some, OperatorRole.parse?_trim]
      by_cases blank : trim text = ""
      · rw [if_pos blank]
        constructor
        · intro read
          cases read
          exact .blank blank
        · intro asked
          cases asked with
          | blank => rfl
          | named named => exact absurd blank named.filled
      · rw [if_neg blank]
        cases found : OperatorRole.parse? text with
        | none =>
            constructor
            · exact nofun
            · intro asked
              cases asked with
              | blank none => exact absurd none blank
              | named named => exact absurd named (OperatorRole.parse?_eq_none_iff.mp found _)
        | some r =>
            constructor
            · intro read
              cases read
              exact .named (OperatorRole.parse?_eq_some_iff.mp found)
            · intro asked
              cases asked with
              | blank none => exact absurd none blank
              | named named =>
                  rw [OperatorRole.parse?_eq_some_iff.mpr named] at found
                  cases found
                  rfl

theorem operatorRoleOf_eq_error_iff {raw : Option String} {e : ApiError} :
    operatorRoleOf raw = .error e
      ↔ ∃ text, raw = some text ∧ trim text ≠ "" ∧ (∀ r : OperatorRole, ¬ r.NamedBy text)
          ∧ e = .validation "invalid role" := by
  cases raw with
  | none => simp [operatorRoleOf]
  | some text =>
      simp only [operatorRoleOf, Option.map_some, OperatorRole.parse?_trim, Option.some.injEq,
        exists_eq_left', ← OperatorRole.parse?_eq_none_iff]
      by_cases blank : trim text = ""
      · simp [blank]
      · rw [if_neg blank]
        cases OperatorRole.parse? text with
        | none => simp [blank, eq_comm]
        | some r => simp

/-! ## Lists of states -/

/-- Which state a text names does not depend on the case of its letters beyond ASCII either. -/
theorem OperatorStatus.parse?_lowercase (text : String) :
    OperatorStatus.parse? (lowercase text) = OperatorStatus.parse? text := by
  have unshared (t : OperatorStatus) : ∀ d ∈ t.code.toList, IsUnshared d := by
    apply forall_mem_of_all
    cases t <;> decide
  apply Option.ext
  intro t
  rw [OperatorStatus.parse?_eq_some_iff, OperatorStatus.parse?_eq_some_iff]
  exact asciiLower_trim_lowercase_eq_iff (unshared t)

theorem OperatorStatus.parse?_trim (text : String) :
    OperatorStatus.parse? (trim text) = OperatorStatus.parse? text := by
  unfold OperatorStatus.parse?
  rw [trim_trim]

theorem OperatorStatus.exists_parse_error_iff {text : String} :
    (∃ fault, OperatorStatus.parse text = .error fault) ↔ OperatorStatus.parse? text = none := by
  unfold OperatorStatus.parse
  cases OperatorStatus.parse? text <;> simp

/-- A piece that names a state adds it to the states of the pieces behind. -/
theorem statusesFrom_cons_of_named {part : String} {rest : List String} {t : OperatorStatus}
    (named : OperatorStatus.parse? part = some t) :
    statusesFrom (part :: rest) = (statusesFrom rest).map (t :: ·) := by
  rw [statusesFrom, named]
  cases statusesFrom rest <;> rfl

theorem statusesFrom_cons_of_unknown {part : String} {rest : List String}
    (unknown : OperatorStatus.parse? part = none) :
    statusesFrom (part :: rest) = .error (.validation ("invalid status " ++ part)) := by
  rw [statusesFrom, unknown]

/-- Pieces that all name states are read as these states. -/
theorem statusesFrom_eq_ok_iff {parts : List String} {ts : List OperatorStatus} :
    statusesFrom parts = .ok ts
      ↔ List.Forall₂ (fun part t => OperatorStatus.parse? part = some t) parts ts := by
  induction parts generalizing ts with
  | nil => simp [statusesFrom, eq_comm]
  | cons part rest ih =>
      rw [List.forall₂_cons_left_iff]
      cases named : OperatorStatus.parse? part with
      | none =>
          rw [statusesFrom_cons_of_unknown named]
          simp
      | some t =>
          rw [statusesFrom_cons_of_named named, map_eq_ok_iff]
          simp only [ih, Option.some.injEq]
          constructor
          · rintro ⟨us, behind, rfl⟩
            exact ⟨t, us, rfl, behind, rfl⟩
          · rintro ⟨_, us, rfl, behind, rfl⟩
            exact ⟨us, behind, rfl⟩

/-- The first piece that names no state is told. -/
theorem statusesFrom_eq_error_iff {parts : List String} {e : ApiError} :
    statusesFrom parts = .error e
      ↔ ∃ before part after, parts = before ++ part :: after
          ∧ (∀ p ∈ before, OperatorStatus.parse? p ≠ none)
          ∧ OperatorStatus.parse? part = none ∧ e = .validation ("invalid status " ++ part) := by
  induction parts with
  | nil => simp [statusesFrom]
  | cons part rest ih =>
      cases named : OperatorStatus.parse? part with
      | none =>
          rw [statusesFrom_cons_of_unknown named]
          constructor
          · intro read
            cases read
            exact ⟨[], part, rest, rfl, nofun, named, rfl⟩
          · rintro ⟨before, other, after, whole, known, unknown, rfl⟩
            cases before with
            | nil =>
                obtain ⟨rfl, -⟩ := List.cons.inj whole
                rfl
            | cons p before =>
                obtain ⟨rfl, -⟩ := List.cons.inj whole
                exact absurd named (known part List.mem_cons_self)
      | some t =>
          rw [statusesFrom_cons_of_named named, map_eq_error_iff, ih]
          constructor
          · rintro ⟨before, other, after, rfl, known, unknown⟩
            refine ⟨part :: before, other, after, rfl, ?_, unknown⟩
            exact List.forall_mem_cons.mpr ⟨by simp [named], known⟩
          · rintro ⟨before, other, after, whole, known, unknown, told⟩
            cases before with
            | nil =>
                obtain ⟨rfl, -⟩ := List.cons.inj whole
                rw [named] at unknown
                cases unknown
            | cons p before =>
                obtain ⟨-, rfl⟩ := List.cons.inj whole
                exact ⟨before, other, after, rfl, (List.forall_mem_cons.mp known).2, unknown, told⟩

/-- The pieces of a list that are not blank, as they stand there. -/
def filledPieces (raw : String) : List String :=
  ((pieces (· == ',') raw.toList).filter fun p => !p.all isBlank).map String.ofList

/-- A piece as the reader of lists looks at it. -/
def smallPiece (piece : String) : String :=
  lowercase (trim piece)

/-- Nothing is left of a piece exactly if it is blank, so blank pieces may be left out before. -/
theorem isEmpty_smallPiece (p : List Char) :
    (smallPiece (String.ofList p)).isEmpty = p.all isBlank := by
  rw [Bool.eq_iff_iff, String.isEmpty_iff, List.all_eq_true, ← trimChars_eq_nil_iff, smallPiece,
    lowercase, trim, String.toList_ofList, String.toList_ofList, ← String.ofList_nil,
    String.ofList_inj, lowerChars, lowerFrom_eq_lowerBetween, lowerBetween_eq_nil_iff]

theorem statusesOf_eq (raw : String) :
    statusesOf raw = statusesFrom ((filledPieces raw).map smallPiece) := by
  have small : (fun p => lowercase (String.ofList (trimChars p))) = smallPiece ∘ String.ofList := by
    funext p
    rw [Function.comp_apply, smallPiece, trim, String.toList_ofList]
  have kept : (fun p => !p.isEmpty) ∘ smallPiece ∘ String.ofList = fun p => !p.all isBlank := by
    funext p
    rw [Function.comp_apply, Function.comp_apply, isEmpty_smallPiece]
  unfold statusesOf filledPieces
  rw [small, List.filter_map, kept, List.map_map]

theorem OperatorStatus.parse?_smallPiece (piece : String) :
    OperatorStatus.parse? (smallPiece piece) = OperatorStatus.parse? piece := by
  rw [smallPiece, OperatorStatus.parse?_lowercase, OperatorStatus.parse?_trim]

theorem statusesOf_eq_ok_iff {raw : String} {ts : List OperatorStatus} :
    statusesOf raw = .ok ts
      ↔ List.Forall₂ (fun piece t => OperatorStatus.parse? piece = some t)
          (filledPieces raw) ts := by
  rw [statusesOf_eq, statusesFrom_eq_ok_iff, List.forall₂_map_left_iff]
  simp only [OperatorStatus.parse?_smallPiece]

theorem statusesOf_eq_error_iff {raw : String} {e : ApiError} :
    statusesOf raw = .error e
      ↔ ∃ before piece after, filledPieces raw = before ++ piece :: after
          ∧ (∀ p ∈ before, OperatorStatus.parse? p ≠ none)
          ∧ OperatorStatus.parse? piece = none
          ∧ e = .validation ("invalid status " ++ smallPiece piece) := by
  rw [statusesOf_eq, statusesFrom_eq_error_iff]
  constructor
  · rintro ⟨_, _, _, whole, known, unknown, told⟩
    obtain ⟨before, rest, parts, rfl, behind⟩ := List.map_eq_append_iff.mp whole
    obtain ⟨piece, after, rfl, rfl, rfl⟩ := List.map_eq_cons_iff.mp behind
    rw [OperatorStatus.parse?_smallPiece] at unknown
    refine ⟨before, piece, after, parts, ?_, unknown, told⟩
    intro p mem
    rw [← OperatorStatus.parse?_smallPiece]
    exact known _ (List.mem_map_of_mem mem)
  · rintro ⟨before, piece, after, parts, known, unknown, told⟩
    refine ⟨before.map smallPiece, smallPiece piece, after.map smallPiece, ?_, ?_, ?_, told⟩
    · rw [parts, List.map_append, List.map_cons]
    · intro _ mem
      obtain ⟨p, inside, rfl⟩ := List.mem_map.mp mem
      rw [OperatorStatus.parse?_smallPiece]
      exact known p inside
    · rw [OperatorStatus.parse?_smallPiece, unknown]

/-- Every item has a value exactly if there is a list of values. -/
theorem exists_forall₂_iff {α β : Type} {R : α → β → Prop} {as : List α} :
    (∃ bs, List.Forall₂ R as bs) ↔ ∀ a ∈ as, ∃ b, R a b := by
  induction as with
  | nil => simp
  | cons a as ih =>
      simp only [List.forall₂_cons_left_iff, List.forall_mem_cons, ← ih]
      constructor
      · rintro ⟨_, b, bs, first, later, rfl⟩
        exact ⟨⟨b, first⟩, bs, later⟩
      · rintro ⟨⟨b, first⟩, bs, later⟩
        exact ⟨_, b, bs, first, later, rfl⟩

/-- A list of states is read like its pieces, each by itself: it gives their states if there is one
for each piece that is not blank, and tells the first piece without one otherwise. Lower case beyond
ASCII makes no difference for that. -/
theorem status_list_agrees (raw : String) :
    ((∃ ts, statusesOf raw = .ok ts) ↔
        ∀ piece ∈ filledPieces raw, ∃ t, OperatorStatus.parse piece = .ok t)
      ∧ (∀ ts, statusesOf raw = .ok ts ↔
        List.Forall₂ (fun piece t => OperatorStatus.parse piece = .ok t) (filledPieces raw) ts)
      ∧ (∀ e, statusesOf raw = .error e ↔
        ∃ before piece after, filledPieces raw = before ++ piece :: after
          ∧ (∀ p ∈ before, ∃ t, OperatorStatus.parse p = .ok t)
          ∧ (∃ fault, OperatorStatus.parse piece = .error fault)
          ∧ e = .validation ("invalid status " ++ lowercase (trim piece)))
      ∧ ∀ text : String, OperatorStatus.parse? (lowercase text) = OperatorStatus.parse? text := by
  simp only [OperatorStatus.exists_parse_error_iff, OperatorStatus.parse_eq_ok_iff,
    Option.ne_none_iff_exists'.symm]
  refine ⟨?_, fun _ => statusesOf_eq_ok_iff, fun _ => statusesOf_eq_error_iff,
    OperatorStatus.parse?_lowercase⟩
  simp only [statusesOf_eq_ok_iff, exists_forall₂_iff, Option.ne_none_iff_exists']

end StudyHall
