import StudyHall.Proofs.Console.Membership
import StudyHall.Proofs.Service.FirstOperator
import StudyHall.Proofs.Service.RequestRuns

/-!
# Rules that operators obey

The rules for user names and e-mail addresses are checked where a request is read, not where a
record is written. A record is written from a new operator, from a patch that is laid over the
record there was, or with another state, and what a patch leaves out stays. So if every operation
that is carried out brings in nothing but texts that obey the rules, a record obeys them from its
creation on. The first operator is not created by a request: that record obeys the rules only if the
settings make it so, or once a patch has given it both texts. The exemption ends when its identifier
is drawn for somebody else.

## Main results

* `checked_of_operation?` — whatever is carried out for a request has been checked.
* `Outcome.obeyOutside` — one operation that was checked.
* `obeyOutside_run` — a run of them.
* `operators_obey_rules` — every state that a launched service comes to.
-/

namespace StudyHall

open Text

/-! ## Rules -/

/-- The rule for user names: from 1 to 64 characters. -/
def IsUsername (s : String) : Prop := 1 ≤ s.length ∧ s.length ≤ 64

/-- The rules for the texts of a record. -/
structure Operator.Obeys (o : Operator) : Prop where
  username : IsUsername o.username
  email : Mail.isAddress o.email = true

theorem flawUnless_eq_nil_iff {condition : Bool} {field text : String} :
    flawUnless condition field text = [] ↔ condition = true := by
  unfold flawUnless
  split
  · next holds => simp [holds]
  · next fails => simp [fails]

theorem usernameFlaws_eq_nil_iff {s : String} : usernameFlaws s = [] ↔ IsUsername s := by
  unfold usernameFlaws lengthWithin IsUsername
  rw [flawUnless_eq_nil_iff, Bool.and_eq_true, decide_eq_true_eq, decide_eq_true_eq]

theorem emailFlaws_eq_nil_iff {s : String} : emailFlaws s = [] ↔ Mail.isAddress s = true :=
  flawUnless_eq_nil_iff

/-- What is accepted under a schema has none of its flaws. -/
theorem Schema.flaws_of_accept {α : Type} {schema : Schema α} {r : Request} {value : α}
    (accepted : schema.accept r = .ok value) : schema.flaws value = [] := by
  unfold accept at accepted
  split at accepted
  · split at accepted
    · unfold check at accepted
      split at accepted
      · next sound =>
          cases accepted
          exact sound
      · cases accepted
    · cases accepted
  · cases accepted

namespace Directory

/-! ## Checked operations -/

/-- The texts that an operation brings in obey the rules. -/
def Operation.Checked : Operation → Prop
  | .create _ new => IsUsername new.username ∧ Mail.isAddress new.email = true
  | .update _ patch =>
      (∀ n ∈ patch.username, IsUsername n) ∧ ∀ e ∈ patch.email, Mail.isAddress e = true
  | _ => True

/-- A patch that was checked leaves a record that obeys the rules in their obedience. -/
theorem obeys_apply {patch : OperatorPatch} {o : Operator} (now : Instant) (obeys : o.Obeys)
    (username : ∀ n ∈ patch.username, IsUsername n)
    (email : ∀ e ∈ patch.email, Mail.isAddress e = true) : (patch.apply now o).Obeys where
  username := by
    show IsUsername (patch.username.getD o.username)
    cases given : patch.username with
    | none => exact obeys.username
    | some n => exact username n given
  email := by
    show Mail.isAddress (patch.email.getD o.email) = true
    cases given : patch.email with
    | none => exact obeys.email
    | some e => exact email e given

/-- Every operator obeys the rules, but for those whose keys are exempt. -/
def ObeyOutside (d : Directory) (exempt : Uuid → Prop) : Prop :=
  ∀ ⦃id o⦄, d.get? id = some o → ¬ exempt id → o.Obeys

/-- An operation that was checked keeps the rules, and makes an end of the exemption of the
identifier that it draws. -/
theorem Outcome.obeyOutside {d d' : Directory} {clock : Clock} {op : Operation} {answer : Answer}
    {exempt : Uuid → Prop} (outcome : Outcome d clock op answer d') (obey : d.ObeyOutside exempt)
    (checked : op.Checked) :
    d'.ObeyOutside fun id => exempt id ∧ Event.drawn? ⟨clock, op, answer⟩ ≠ some id := by
  intro id o present subject
  cases outcome with
  | @created key new _ _ =>
      rw [get?_insert] at present
      split at present
      · cases present
        exact ⟨checked.1, checked.2⟩
      · next other =>
          refine obey present fun isExempt => subject ⟨isExempt, ?_⟩
          intro drawn
          exact other (Option.some.inj drawn).symm
  | @updated key patch _ _ _ _ =>
      have bound : ¬ exempt id := fun isExempt => subject ⟨isExempt, nofun⟩
      rw [get?_modify] at present
      split at present
      · obtain ⟨before, found, rfl⟩ := Option.map_eq_some_iff.mp present
        exact obeys_apply clock.first (obey found bound) checked.1 checked.2
      · exact obey present bound
  | @deleted key _ =>
      have bound : ¬ exempt id := fun isExempt => subject ⟨isExempt, nofun⟩
      rw [get?_erase] at present
      split at present
      · cases present
      · exact obey present bound
  | @statusSet ids status =>
      have bound : ¬ exempt id := fun isExempt => subject ⟨isExempt, nofun⟩
      rw [get?_bulkStatus] at present
      split at present
      · obtain ⟨before, found, rfl⟩ := Option.map_eq_some_iff.mp present
        exact ⟨(obey found bound).username, (obey found bound).email⟩
      · exact obey present bound
  | @removed ids =>
      have bound : ¬ exempt id := fun isExempt => subject ⟨isExempt, nofun⟩
      rw [get?_bulkDelete] at present
      split at present
      · cases present
      · exact obey present bound
  | unchanged silent =>
      refine obey present fun isExempt => subject ⟨isExempt, ?_⟩
      rw [Event.drawn?_of_silent silent]
      exact nofun

/-- A run of checked operations keeps the rules; who was exempt is so until the identifier is
drawn. -/
theorem obeyOutside_run {d : Directory} {exempt : Uuid → Prop} (obey : d.ObeyOutside exempt)
    {steps : List (Clock × Operation)} (checked : ∀ step ∈ steps, step.2.Checked) :
    (d.run steps).ObeyOutside fun id => exempt id ∧ id ∉ drawn (d.history steps) := by
  induction steps generalizing d exempt with
  | nil =>
      intro id o present subject
      exact obey present fun isExempt => subject ⟨isExempt, nofun⟩
  | cons step steps ih =>
      obtain ⟨clock, op⟩ := step
      have first := (d.outcome_performUnder clock op).obeyOutside obey
        (checked _ List.mem_cons_self)
      have rest := ih first fun later mem => checked later (List.mem_cons_of_mem _ mem)
      intro id o present subject
      refine rest present ?_
      rintro ⟨⟨isExempt, notFirst⟩, notLater⟩
      refine subject ⟨isExempt, ?_⟩
      simp only [drawn, history, List.filterMap_cons] at notLater ⊢
      split
      · exact notLater
      · next drawn =>
          rw [List.mem_cons, not_or]
          exact ⟨fun same => notFirst (same ▸ drawn), notLater⟩

end Directory

/-! ## Requests -/

/-- Whatever an endpoint of the directory makes of a request has been checked. -/
theorem DirectoryAction.checked_of_operation {a : DirectoryAction} {r : Request} {fresh : Uuid}
    {op : Directory.Operation} (what : a.operation r fresh = .ok op) : op.Checked := by
  cases a with
  | list =>
      simp only [operation, bind_eq_ok_iff, Except.ok.injEq] at what
      obtain ⟨q, -, f, -, rfl⟩ := what
      trivial
  | create =>
      simp only [operation, bind_eq_ok_iff, Except.ok.injEq] at what
      obtain ⟨new, body, rfl⟩ := what
      have sound : createSchema.flaws new = [] := Schema.flaws_of_accept body
      simp only [createSchema, List.append_eq_nil_iff] at sound
      exact ⟨usernameFlaws_eq_nil_iff.mp sound.1.1.2, emailFlaws_eq_nil_iff.mp sound.1.2⟩
  | update segment =>
      simp only [operation, bind_eq_ok_iff, Except.ok.injEq] at what
      obtain ⟨id, -, patch, body, rfl⟩ := what
      have sound : updateSchema.flaws patch = [] := Schema.flaws_of_accept body
      simp only [updateSchema, List.append_eq_nil_iff] at sound
      refine ⟨fun n given => ?_, fun e given => ?_⟩
      · rw [Option.mem_def.mp given] at sound
        exact usernameFlaws_eq_nil_iff.mp sound.1
      · rw [Option.mem_def.mp given] at sound
        exact emailFlaws_eq_nil_iff.mp sound.2
  | delete segment =>
      simp only [operation, bind_eq_ok_iff, Except.ok.injEq] at what
      obtain ⟨id, -, rfl⟩ := what
      trivial
  | setStatus =>
      simp only [operation, bind_eq_ok_iff, Except.ok.injEq] at what
      obtain ⟨change, -, rfl⟩ := what
      trivial
  | remove =>
      simp only [operation, bind_eq_ok_iff, Except.ok.injEq] at what
      obtain ⟨removal, -, rfl⟩ := what
      trivial
  | invite =>
      simp only [operation, bind_eq_ok_iff, Except.ok.injEq] at what
      obtain ⟨invitation, -, rfl⟩ := what
      trivial

namespace Service

/-- So has every operation in the run that requests add up to. -/
theorem checked_of_mem_operations {s : Service} {calls : List Call}
    {step : Clock × Directory.Operation} (mem : step ∈ s.operations calls) : step.2.Checked := by
  obtain ⟨c, -, found⟩ := List.mem_filterMap.mp mem
  obtain ⟨op, carried, rfl⟩ := Option.map_eq_some_iff.mp found
  obtain ⟨a, subject, -, -, what⟩ := s.operation?_eq_some_iff.mp carried
  exact DirectoryAction.checked_of_operation what

end Service

/-- Whatever a launched service has been asked, every operator but the first one has a user name of
1 to 64 characters and an e-mail address, and so has the first one if it had them at the start. The
record under the identifier of the first operator is that of the first operator unless the
identifier has been drawn for a new one. -/
theorem operators_obey_rules {s : Settings} {started : Instant} {reportsMetrics : Bool}
    {service : Service} {d : Directory}
    (launched : s.launch started reportsMetrics = .ok (service, d)) (recorder : Metrics.Recorder)
    (calls : List Call) :
    let first := service.account.profile
    let reached := (service.serve ⟨d, recorder⟩ calls).directory
    (∀ id o, reached.get? id = some o →
        id ≠ first.id ∨ first.id ∈ Directory.drawn (d.history (service.operations calls)) →
        o.Obeys)
      ∧ (first.toOperator.Obeys → ∀ id o, reached.get? id = some o → o.Obeys) := by
  intro first reached
  have start : d = Directory.seeded first := (Settings.made_of_launch launched).directory
  have run : reached = d.run (service.operations calls) := service.directory_serve _ calls
  have alone : ∀ ⦃id o⦄, d.get? id = some o → id = first.id ∧ o = first.toOperator := by
    intro id o present
    rw [start, Directory.get?_eq_some_iff] at present
    simpa [Directory.seeded] using present
  have checked : ∀ step ∈ service.operations calls, step.2.Checked :=
    fun _ => Service.checked_of_mem_operations
  constructor
  · intro id o present other
    have obey : d.ObeyOutside (· = first.id) := fun _ _ found apart => absurd (alone found).1 apart
    rw [run] at present
    refine Directory.obeyOutside_run obey checked present ?_
    rintro ⟨rfl, notDrawn⟩
    cases other with
    | inl apart => exact apart rfl
    | inr drawn => exact notDrawn drawn
  · intro sound id o present
    have obey : d.ObeyOutside fun _ => False := by
      intro _ _ found _
      rw [(alone found).2]
      exact sound
    rw [run] at present
    exact Directory.obeyOutside_run obey checked present fun isExempt => isExempt.1

/-! ## One who is admitted, and one who is not -/

/-- A new operator with an e-mail address. -/
def applicant (email : String) : NewOperator :=
  ⟨"Ada", "L", "ada", email, "1", .admin, .active⟩

/-- The new operator in JSON. -/
def applicantText (email : String) : String :=
  "\x7b\"firstName\":\"Ada\",\"lastName\":\"L\",\"username\":\"ada\",\"email\":\"" ++ email
    ++ "\",\"phoneNumber\":\"1\",\"role\":\"admin\",\"status\":\"active\"\x7d"

/-- The request for the new operator, signed for the console of a hall. -/
def application (email : String) : Call :=
  ⟨⟨"POST", ⟨operatorsPath, []⟩,
    [("authorization", "Bearer " ++ hallToken "admin"), ("content-type", "application/json")],
    Utf8.ofText (applicantText email)⟩, firstMinute, .unreachable, .ofNat 2, .ofNat 3, .free⟩

/-- Whoever signs with the token of a hall is known to its console. -/
theorem operator_of_hallToken {service : Service} {c : Call}
    (console : service.adminTokens = hallTokens "admin")
    (signed : c.request.header? "authorization" = some ("Bearer " ++ hallToken "admin"))
    (minute : c.now = firstMinute) :
    service.adminTokens.operator c.request c.now = .ok ⟨.ofNat 7, .admin, none⟩ := by
  have carried : c.request.bearer? = some (hallToken "admin") :=
    Request.bearer?_of_header signed fun _ => TokenService.plain_of_mem_seal
  have accepted := verify_hallToken "admin"
  rw [← console, ← minute] at accepted
  exact Service.operator_of_token carried accepted (.inl rfl)

/-- What is carried out for such a request, if its body reads well: the creation that it asks for,
unless the rules are broken. -/
theorem operation?_application {service : Service} {email : String}
    (console : service.adminTokens = hallTokens "admin")
    (reads : createSchema.record? (Utf8.ofText (applicantText email)) = some (applicant email)) :
    service.operation? (application email)
      = if createSchema.flaws (applicant email) = [] then
          some (.create (.ofNat 2) (applicant email))
        else none := by
  have known : service.adminTokens.operator (application email).request (application email).now
      = .ok ⟨.ofNat 7, .admin, none⟩ := operator_of_hallToken console rfl rfl
  have path : (application email).request.target.path = operatorsPath := rfl
  have method : (application email).request.method = "POST" := rfl
  have leads : service.destination? (application email).request = some (.directory .create) :=
    service.destination?_of_route path method (by decide +kernel) (by decide +kernel)
      (by decide +kernel)
  have declared : Schema.declaresJson (application email).request = true := rfl
  have body : createSchema.record? (application email).request.body = some (applicant email) :=
    reads
  have read : createSchema.accept (application email).request
      = createSchema.check (applicant email) := by
    unfold Schema.accept
    rw [if_pos declared, body]
  rw [service.operation?_of_operator leads known]
  show (createSchema.accept (application email).request >>= fun new =>
    Except.ok (Directory.Operation.create (.ofNat 2) new)).toOption = _
  rw [read, Schema.check]
  cases createSchema.flaws (applicant email) with
  | nil => rfl
  | cons flaw flaws => rfl

/-- An application without an e-mail address, and then the same one with it. -/
theorem operators_obey_rules_sample :
    ∃ service d o, (hallSettings "user" "admin").launch .epoch true = .ok (service, d)
      ∧ (service.serve ⟨d, .empty⟩ [application "ada", application "ada@hall.test"]).directory.get?
          (.ofNat 2) = some o
      ∧ o.email = "ada@hall.test" ∧ o.Obeys := by
  obtain ⟨⟨service, d⟩, launched⟩ :
      ∃ x, (hallSettings "user" "admin").launch .epoch true = .ok x := ⟨_, rfl⟩
  obtain ⟨-, console⟩ := tokens_of_launch_hall launched
  have account := (Settings.console_of_assemble (adminProfile_lastingHall 1440)
    (Settings.launch_eq_ok_iff.mp launched).1).1
  have start : d = Directory.seeded hallOperator := by
    rw [(Settings.made_of_launch launched).directory, account]
  have flawed : service.operation? (application "ada") = none :=
    (operation?_application console (by decide +kernel)).trans (if_neg (by decide +kernel))
  have sound : service.operation? (application "ada@hall.test")
      = some (.create (.ofNat 2) (applicant "ada@hall.test")) :=
    (operation?_application console (by decide +kernel)).trans (if_pos (by decide +kernel))
  let calls := [application "ada", application "ada@hall.test"]
  let ada := (applicant "ada@hall.test").toOperator (.ofNat 2) firstMinute
  have present : (service.serve ⟨d, .empty⟩ calls).directory.get? (.ofNat 2) = some ada := by
    have run : service.operations calls
        = [(Clock.steady firstMinute, .create (.ofNat 2) (applicant "ada@hall.test"))] := by
      simp only [Service.operations, calls, List.filterMap_cons, flawed, sound]
      rfl
    rw [service.directory_serve, run, start]
    decide +kernel
  have other : Uuid.ofNat 2 ≠ service.account.profile.id := by
    rw [account]
    decide
  obtain ⟨obey, -⟩ := operators_obey_rules launched .empty calls
  exact ⟨service, d, ada, launched, present, rfl, obey _ _ present (.inl other)⟩

end StudyHall
