import StudyHall.Api.Payload

/-!
# Rules of what callers send

Every record that callers send has rules on some of its fields, one for each of them, and a rule on
a field that may be left out binds it only where it is there. A schema finds the rules that are
broken one by one and joins what it has found; all of that comes down to one statement, that the
flaws of a record are those of the rules it breaks.

A field has one rule at most. So a field is told once at most, and sorting by field leaves one order
only: the wording of the flaws does not depend on the order in which they were collected.

## Main results

* `Submission.flaws_eq` — the flaws of a record are those of the rules that it breaks.
* `describe_of_sorted` — the order in which flaws were found does not show.
* `Submission.accept_of_sound`, `Submission.accept_of_broken` — what becomes of a record that has
  been read.
-/

namespace StudyHall

/-! ## Rules -/

/-- A rule on a field: what a record must be like, and what is told when it is not. -/
structure Rule (α : Type) where
  field : String
  text : String
  Holds : α → Prop
  [decidable : DecidablePred Holds]

namespace Rule

attribute [instance] Rule.decidable

variable {α : Type}

/-- What is told when a rule is broken. -/
def flaw (rule : Rule α) : Flaw := ⟨rule.field, rule.text⟩

/-- What is told of the rules that a record breaks. -/
def broken (rules : List (Rule α)) (value : α) : List Flaw :=
  (rules.filter fun rule => ¬ rule.Holds value).map flaw

theorem mem_broken_iff {rules : List (Rule α)} {value : α} {f : Flaw} :
    f ∈ broken rules value ↔ ∃ rule ∈ rules, ¬ rule.Holds value ∧ rule.flaw = f := by
  unfold broken
  rw [List.mem_map]
  constructor
  · rintro ⟨rule, mem, told⟩
    obtain ⟨listed, fails⟩ := List.mem_filter.mp mem
    exact ⟨rule, listed, of_decide_eq_true fails, told⟩
  · rintro ⟨rule, listed, fails, told⟩
    exact ⟨rule, List.mem_filter.mpr ⟨listed, decide_eq_true fails⟩, told⟩

theorem broken_eq_nil_iff {rules : List (Rule α)} {value : α} :
    broken rules value = [] ↔ ∀ rule ∈ rules, rule.Holds value := by
  unfold broken
  rw [List.map_eq_nil_iff, List.filter_eq_nil_iff]
  simp only [decide_not, Bool.not_eq_true', decide_eq_false_iff_not, Decidable.not_not]

@[simp]
theorem broken_nil (value : α) : broken [] value = [] := rfl

theorem broken_cons (rule : Rule α) (rules : List (Rule α)) (value : α) :
    broken (rule :: rules) value
      = flawUnless (decide (rule.Holds value)) rule.field rule.text ++ broken rules value := by
  unfold broken flawUnless
  by_cases holds : rule.Holds value
  · rw [List.filter_cons_of_neg (by simp [holds]), if_pos (decide_eq_true holds), List.nil_append]
  · rw [List.filter_cons_of_pos (by simp [holds]), if_neg (by simp [holds])]
    rfl

/-- A field is told once at most where it has one rule at most. -/
theorem nodup_broken {rules : List (Rule α)} (once : (rules.map field).Nodup) (value : α) :
    ((broken rules value).map Flaw.field).Nodup := by
  have told : (broken rules value).map Flaw.field
      = (rules.filter fun rule => ¬ rule.Holds value).map field := by
    unfold broken
    rw [List.map_map]
    rfl
  rw [told]
  exact once.sublist (List.filter_sublist.map field)

/-! ### Kinds of rules -/

/-- A text that must not be empty. -/
def required (field : String) (text : α → String) : Rule α :=
  ⟨field, "is required", fun r => 1 ≤ (text r).length⟩

/-- A user name, where there is one. -/
def username (name? : α → Option String) : Rule α :=
  ⟨"username", "must be 1-64 characters", fun r => ∀ n ∈ name? r, 1 ≤ n.length ∧ n.length ≤ 64⟩

/-- An e-mail address, where there is one. -/
def email (address? : α → Option String) : Rule α :=
  ⟨"email", "must be a valid email", fun r => ∀ a ∈ address? r, Mail.isAddress a = true⟩

/-- Operators, of whom there must be one at least. -/
def operators (ids : α → List Uuid) : Rule α :=
  ⟨"user_ids", "must not be empty", fun r => 1 ≤ (ids r).length⟩

end Rule

/-! ## Wording -/

theorem Flaw.before_trans (a b c : Flaw) (ab : a.before b = true) (bc : b.before c = true) :
    a.before c = true :=
  decide_eq_true (String.le_trans (of_decide_eq_true ab) (of_decide_eq_true bc))

theorem Flaw.before_total (a b : Flaw) : (a.before b || b.before a) = true := by
  rcases String.le_total a.field b.field with ab | ba
  · simp [Flaw.before, ab]
  · simp [Flaw.before, ba]

/-- Flaws in the order in which they are told. -/
def inOrder (flaws : List Flaw) : List Flaw :=
  flaws.mergeSort Flaw.before

theorem describe_eq (flaws : List Flaw) :
    describe flaws = String.intercalate "; " ((inOrder flaws).map Flaw.message) := rfl

theorem mem_inOrder {flaws : List Flaw} {f : Flaw} : f ∈ inOrder flaws ↔ f ∈ flaws :=
  (List.mergeSort_perm flaws Flaw.before).mem_iff

/-- Flaws of different fields are told in strict order. -/
theorem sorted_inOrder {flaws : List Flaw} (once : (flaws.map Flaw.field).Nodup) :
    (inOrder flaws).Pairwise fun a b => a.field < b.field := by
  have ordered : (inOrder flaws).Pairwise fun a b => a.before b :=
    List.pairwise_mergeSort Flaw.before_trans Flaw.before_total flaws
  have apart : (inOrder flaws).Pairwise fun a b => a.field ≠ b.field := by
    rw [← List.pairwise_map]
    exact ((List.mergeSort_perm flaws Flaw.before).map Flaw.field).nodup_iff.mpr once
  refine (ordered.and apart).imp fun both => ?_
  obtain ⟨le, ne⟩ := both
  exact String.not_le.mp fun ge => ne (String.le_antisymm (of_decide_eq_true le) ge)

/-- Only one order of flaws is strict. -/
theorem inOrder_eq {flaws told : List Flaw} (same : told.Perm flaws)
    (sorted : told.Pairwise fun a b => a.field < b.field) : inOrder flaws = told := by
  have once : (told.map Flaw.field).Nodup := by
    unfold List.Nodup
    rw [List.pairwise_map]
    exact sorted.imp String.ne_of_lt
  have again : (flaws.map Flaw.field).Nodup := (same.map Flaw.field).nodup_iff.mp once
  refine List.Perm.eq_of_pairwise (fun a b _ _ ab ba => ?_) (sorted_inOrder again) sorted ?_
  · exact absurd (String.lt_trans ab ba) (String.lt_irrefl _)
  · exact (List.mergeSort_perm _ _).trans same.symm

/-- So flaws of different fields are worded alike in whatever order they were found. -/
theorem describe_of_sorted {found told : List Flaw} (same : told.Perm found)
    (sorted : told.Pairwise fun a b => a.field < b.field) :
    describe found = String.intercalate "; " (told.map Flaw.message) := by
  rw [describe_eq, inOrder_eq same sorted]

/-! ## Submissions -/

/-- The kinds of records that callers send. -/
inductive Submission where
  | newOperator
  | operatorPatch
  | statusChange
  | removal
  | invitation
  | telegramSignIn
  | credentials
  deriving DecidableEq

namespace Submission

/-- The records of a kind. -/
def Record : Submission → Type
  | .newOperator => NewOperator
  | .operatorPatch => OperatorPatch
  | .statusChange => StatusChange
  | .removal => Removal
  | .invitation => Invitation
  | .telegramSignIn => TelegramSignIn
  | .credentials => Credentials

/-- The schema that the records of a kind are read under. -/
def schema : (kind : Submission) → Schema kind.Record
  | .newOperator => createSchema
  | .operatorPatch => updateSchema
  | .statusChange => statusSchema
  | .removal => removalSchema
  | .invitation => invitationSchema
  | .telegramSignIn => telegramSchema
  | .credentials => credentialsSchema

/-- The rules for the records of a kind. -/
def rules : (kind : Submission) → List (Rule kind.Record)
  | .newOperator =>
      [ .required "first_name" NewOperator.firstName, .required "last_name" NewOperator.lastName,
        .username fun o : NewOperator => some o.username,
        .email fun o : NewOperator => some o.email,
        .required "phone_number" NewOperator.phoneNumber ]
  | .operatorPatch => [.username OperatorPatch.username, .email OperatorPatch.email]
  | .statusChange => [.operators StatusChange.userIds]
  | .removal => [.operators Removal.userIds]
  | .invitation => [.email fun v : Invitation => some v.email]
  | .telegramSignIn =>
      [ ⟨"telegram_id", "is required",
          fun t : TelegramSignIn => 1 ≤ t.telegramId.length ∧ t.telegramId.length ≤ 64⟩,
        ⟨"display_name", "is invalid", fun t : TelegramSignIn => t.displayName.length ≤ 255⟩ ]
  | .credentials =>
      [.required "username" Credentials.username, .required "password" Credentials.password]

/-- A field has one rule at most. -/
theorem nodup_rules (kind : Submission) : (kind.rules.map Rule.field).Nodup := by
  cases kind <;> decide +kernel

end Submission

/-! ### Flaws as broken rules -/

theorem decide_lengthWithin (low high : Nat) (s : String) :
    decide (low ≤ s.length ∧ s.length ≤ high) = lengthWithin low high s := by
  unfold lengthWithin
  rw [Bool.decide_and]

theorem usernameFlaws_eq (name? : Option String) :
    flawUnless (decide (∀ n ∈ name?, 1 ≤ n.length ∧ n.length ≤ 64)) "username"
      "must be 1-64 characters" = name?.elim [] usernameFlaws := by
  cases name? with
  | none => rfl
  | some n =>
      simp only [Option.mem_some_iff, forall_eq', decide_lengthWithin]
      rfl

theorem emailFlaws_eq (address? : Option String) :
    flawUnless (decide (∀ a ∈ address?, Mail.isAddress a = true)) "email" "must be a valid email"
      = address?.elim [] emailFlaws := by
  cases address? with
  | none => rfl
  | some a =>
      simp only [Option.mem_some_iff, forall_eq', Bool.decide_eq_true]
      rfl

theorem idsFlaws_eq (ids : List Uuid) :
    flawUnless (decide (1 ≤ ids.length)) "user_ids" "must not be empty" = idsFlaws ids := by
  unfold idsFlaws
  cases ids <;> rfl

namespace Submission

/-- The flaws that a schema finds are those of the rules that are broken. -/
theorem flaws_eq (kind : Submission) (value : kind.Record) :
    kind.schema.flaws value = Rule.broken kind.rules value := by
  cases kind with
  | newOperator =>
      simp only [rules, Rule.broken_cons, Rule.broken_nil, Rule.username, Rule.email,
        usernameFlaws_eq, emailFlaws_eq, List.append_nil]
      simp only [schema, createSchema, List.append_assoc]
      rfl
  | operatorPatch =>
      simp only [rules, Rule.broken_cons, Rule.broken_nil, Rule.username, Rule.email,
        usernameFlaws_eq, emailFlaws_eq, List.append_nil]
      rfl
  | statusChange =>
      simp only [rules, Rule.broken_cons, Rule.broken_nil, Rule.operators, idsFlaws_eq,
        List.append_nil]
      rfl
  | removal =>
      simp only [rules, Rule.broken_cons, Rule.broken_nil, Rule.operators, idsFlaws_eq,
        List.append_nil]
      rfl
  | invitation =>
      simp only [rules, Rule.broken_cons, Rule.broken_nil, Rule.email, emailFlaws_eq,
        List.append_nil]
      rfl
  | telegramSignIn =>
      simp only [rules, Rule.broken_cons, Rule.broken_nil, decide_lengthWithin, List.append_nil]
      rfl
  | credentials =>
      simp only [rules, Rule.broken_cons, Rule.broken_nil, Rule.required, List.append_nil]
      rfl

theorem nodup_flaws (kind : Submission) (value : kind.Record) :
    ((kind.schema.flaws value).map Flaw.field).Nodup := by
  rw [flaws_eq]
  exact Rule.nodup_broken kind.nodup_rules value

/-! ## What becomes of a record -/

variable {kind : Submission} {r : Request} {value : kind.Record}

theorem accept_of_read (declared : Schema.declaresJson r = true)
    (read : kind.schema.record? r.body = some value) :
    kind.schema.accept r = kind.schema.check value := by
  unfold Schema.accept
  rw [if_pos declared, read]

/-- A record that keeps all rules is handed on as it was read. -/
theorem accept_of_sound (declared : Schema.declaresJson r = true)
    (read : kind.schema.record? r.body = some value)
    (sound : ∀ rule ∈ kind.rules, rule.Holds value) : kind.schema.accept r = .ok value := by
  have flawless : kind.schema.flaws value = [] := by
    rw [flaws_eq, Rule.broken_eq_nil_iff]
    exact sound
  rw [accept_of_read declared read, Schema.check, flawless]

/-- A record that breaks rules is refused with what is told of them. -/
theorem accept_of_broken (declared : Schema.declaresJson r = true)
    (read : kind.schema.record? r.body = some value)
    (broken : ¬ ∀ rule ∈ kind.rules, rule.Holds value) :
    kind.schema.accept r = .error (.validation (describe (kind.schema.flaws value))) := by
  rw [accept_of_read declared read, Schema.check]
  cases flaws : kind.schema.flaws value with
  | nil =>
      rw [flaws_eq, Rule.broken_eq_nil_iff] at flaws
      exact absurd flaws broken
  | cons f fs => rfl

end Submission

end StudyHall
