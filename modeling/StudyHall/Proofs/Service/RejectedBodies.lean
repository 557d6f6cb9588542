import StudyHall.Proofs.Api.Rules
import StudyHall.Proofs.Service.OperatorRules

/-!
# Bodies that are turned away

Seven endpoints read a body. What a caller sends there is accepted exactly when it keeps all rules
of its kind, and is then handed on as it was read; else all that is wrong with it is told at once,
sorted by field. The endpoints of operators ask who sends before they read, and the one for a patch
reads the identifier in the path, too; a fault found there is told instead. In no case does the
endpoint do anything with a body that is turned away.

## Main results

* `answer_of_rejected` — the whole outcome of an endpoint whose body is turned away.
* `rules_decide_body` — which bodies are accepted, what is told of the others, and that these reach
  nothing.
-/

namespace StudyHall

/-- The kind of record that an endpoint reads from a body, if it reads one. -/
def Endpoint.submission? : Endpoint → Option Submission
  | .directory .create => some .newOperator
  | .directory (.update _) => some .operatorPatch
  | .directory .setStatus => some .statusChange
  | .directory .remove => some .removal
  | .directory .invite => some .invitation
  | .telegramSignIn => some .telegramSignIn
  | .adminSignIn => some .credentials
  | _ => none

/-! ## What is checked before a body -/

/-- Whether the path of an action names an operator, where it is to name one. -/
def DirectoryAction.checkPath : DirectoryAction → Except ApiError Unit
  | .update segment | .delete segment => (identifier segment).map fun _ => ()
  | _ => .ok ()

/-- What an endpoint checks of a request before it reads a body: the sender, where it is for
operators, and the path, where that names one. -/
def Service.beforeBody (s : Service) (e : Endpoint) (c : Call) : Except (Fault ApiError) Unit :=
  match e with
  | .directory a => do
      let _ ← s.adminTokens.operator c.request c.now
      refusing a.checkPath
  | _ => .ok ()

/-! ## Outcomes -/

section
variable {kind : Submission} {cause : ApiError}

theorem bind_of_error {ε α β : Type} {x : Except ε α} {f : α → Except ε β} {e : ε}
    (failed : x = .error e) : (x >>= f) = .error e := by
  rw [failed]
  rfl

/-- An action makes nothing of a body that is turned away. -/
theorem DirectoryAction.operation_of_rejected {a : DirectoryAction} {r : Request} (fresh : Uuid)
    (reads : (Endpoint.directory a).submission? = some kind)
    (rejected : kind.schema.accept r = .error cause) :
    a.operation r fresh = a.checkPath >>= fun _ => .error cause := by
  cases a with
  | create | setStatus | remove | invite =>
      cases reads
      exact bind_of_error rejected
  | update segment =>
      cases reads
      simp only [operation, checkPath]
      cases identifier segment with
      | error malformed => rfl
      | ok id =>
          have refused : (updateSchema.accept r >>= fun patch =>
              Except.ok (Directory.Operation.update id patch)) = .error cause :=
            bind_of_error rejected
          exact refused
  | list | delete segment => cases reads

namespace Service

variable {s : Service} {c : Call} {e : Endpoint}

/-- A body that is turned away is all that there is to the outcome, unless something before it is
wrong already. -/
theorem answer_of_rejected (d : Directory) (reads : e.submission? = some kind)
    (rejected : kind.schema.accept c.request = .error cause) :
    s.answer e c d = ⟨s.beforeBody e c >>= fun _ => .error (.refused cause), d, [], []⟩ := by
  cases e with
  | telegramSignIn =>
      cases reads
      have refused : telegramSchema.accept c.request = .error cause := rejected
      simp only [answer, telegramSignIn, refused]
      rfl
  | adminSignIn =>
      cases reads
      have refused : credentialsSchema.accept c.request = .error cause := rejected
      simp only [answer, adminSignIn, refused]
      rfl
  | directory a =>
      simp only [answer, directoryAction, beforeBody,
        DirectoryAction.operation_of_rejected _ reads rejected]
      cases s.adminTokens.operator c.request c.now with
      | error fault => rfl
      | ok subject => cases a.checkPath <;> rfl
  | health | ready | learner _ | report _ => cases reads

/-- What becomes of a request whose body is turned away. -/
structure TurnsAway (s : Service) (e : Endpoint) (c : Call) (st : State) (cause : ApiError) :
    Prop where
  /-- The endpoint does nothing and counts nothing. -/
  idle : s.answer e c st.directory
    = ⟨s.beforeBody e c >>= fun _ => .error (.refused cause), st.directory, [], []⟩
  /-- No statement is sent, and the directory stays. -/
  untouched : ∀ {response statements st'}, s.respond c st = some (response, statements, st') →
    statements = [] ∧ st'.directory = st.directory
  /-- The sender is told why, unless something before the body was wrong or, at the sign-in of
  operators, the limiter turns the sender away. -/
  told : s.beforeBody e c = .ok () → (e = .adminSignIn → c.Passes) → ∃ recorder,
    s.respond c st
      = some (finish c (s.dress c (cause.response.withHeaders c.limitHere.headers)), [],
          ⟨st.directory, recorder⟩)

theorem turnsAway_of_rejected (st : State) (leads : s.destination? c.request = some e)
    (reads : e.submission? = some kind)
    (rejected : kind.schema.accept c.request = .error cause) : s.TurnsAway e c st cause := by
  have idle := s.answer_of_rejected st.directory reads rejected
  refine ⟨idle, ?untouched, ?told⟩
  case untouched =>
    intro response statements st' heard
    cases limited : c.limitHere.page? with
    | some page =>
        obtain ⟨_, _, answered, -⟩ := s.respond_of_turnedAway limited st
        rw [answered] at heard
        cases heard
        exact ⟨rfl, rfl⟩
    | none =>
        obtain ⟨recorder, answered⟩ := s.respond_of_passing st leads limited
        rw [answered, idle] at heard
        obtain ⟨r, -, same⟩ := Option.map_eq_some_iff.mp heard
        cases same
        exact ⟨rfl, rfl⟩
  case told =>
    intro sound signIn
    obtain ⟨recorder, answered⟩ :=
      s.respond_of_passing st leads (s.passes_of_signIn leads signIn)
    rw [idle, sound] at answered
    exact ⟨_, answered⟩

end Service

end

/-! ## Records, sound and unsound -/

namespace Submission

/-- A record that has been read is accepted exactly when it keeps all rules of its kind, and is
then handed on as it is. Of a record that breaks rules every one that is broken is told, each once
and sorted by field, in whatever order they were found; and the request with it reaches nothing. -/
theorem rules_decide_body (kind : Submission) {r : Request} {value : kind.Record}
    (declared : Schema.declaresJson r = true)
    (read : kind.schema.record? r.body = some value) :
    (kind.schema.accept r = .ok value ↔ ∀ rule ∈ kind.rules, rule.Holds value)
      ∧ (∀ accepted, kind.schema.accept r = .ok accepted → accepted = value)
      ∧ ((∃ rule ∈ kind.rules, ¬ rule.Holds value) → ∃ told : List Flaw,
          told.Pairwise (fun f g => f.field < g.field)
          ∧ (∀ f, f ∈ told ↔ ∃ rule ∈ kind.rules, ¬ rule.Holds value ∧ rule.flaw = f)
          ∧ kind.schema.accept r
              = .error (.validation
                  (String.intercalate "; " (told.map fun f => f.field ++ ": " ++ f.text)))
          ∧ ∀ found : List Flaw, found.Perm told →
              describe found
                = String.intercalate "; " (told.map fun f => f.field ++ ": " ++ f.text))
      ∧ ∀ (s : Service) (c : Call) (st : State) (e : Endpoint) (cause : ApiError),
          c.request = r → s.destination? r = some e → e.submission? = some kind →
          kind.schema.accept r = .error cause → s.TurnsAway e c st cause := by
  have sound := accept_of_sound declared read
  have unsound := accept_of_broken declared read
  refine ⟨⟨?keeps, sound⟩, ?unchanged, ?told, ?nothing⟩
  case keeps =>
    intro accepted
    by_cases keeps : ∀ rule ∈ kind.rules, rule.Holds value
    · exact keeps
    · rw [unsound keeps] at accepted
      cases accepted
  case unchanged =>
    intro accepted handed
    by_cases keeps : ∀ rule ∈ kind.rules, rule.Holds value
    · rw [sound keeps] at handed
      exact (Except.ok.inj handed).symm
    · rw [unsound keeps] at handed
      cases handed
  case told =>
    rintro ⟨rule, listed, fails⟩
    have broken : ¬ ∀ rule ∈ kind.rules, rule.Holds value := fun all => fails (all rule listed)
    have once := nodup_flaws kind value
    have sorted := sorted_inOrder once
    refine ⟨inOrder (kind.schema.flaws value), sorted, fun f => ?_, unsound broken,
      fun found reordered => describe_of_sorted reordered.symm sorted⟩
    rw [mem_inOrder, flaws_eq, Rule.mem_broken_iff]
  case nothing =>
    rintro s c st e cause rfl leads reads rejected
    exact Service.turnsAway_of_rejected st leads reads rejected

end Submission

/-! ## A record that breaks every rule -/

/-- A new operator about whom nothing is said. -/
def nobody : NewOperator :=
  ⟨"", "", "", "", "", .admin, .active⟩

/-- The new operator in JSON. -/
def nobodyText : String :=
  "\x7b\"firstName\":\"\",\"lastName\":\"\",\"username\":\"\",\"email\":\"\","
    ++ "\"phoneNumber\":\"\",\"role\":\"admin\",\"status\":\"active\"\x7d"

/-- The request for the new operator, signed for the console of a hall. -/
def blankApplication : Call :=
  ⟨⟨"POST", ⟨operatorsPath, []⟩,
    [("authorization", "Bearer " ++ hallToken "admin"), ("content-type", "application/json")],
    Utf8.ofText nobodyText⟩, firstMinute, .unreachable, .ofNat 2, .ofNat 3, .free⟩

/-- What is wrong with the new operator, in the order of the fields. -/
def nobodysFlaws : List Flaw :=
  [ ⟨"email", "must be a valid email"⟩, ⟨"first_name", "is required"⟩,
    ⟨"last_name", "is required"⟩, ⟨"phone_number", "is required"⟩,
    ⟨"username", "must be 1-64 characters"⟩ ]

/-- What is told of it. -/
def nobodysNotice : String :=
  "email: must be a valid email; first_name: is required; last_name: is required; "
    ++ "phone_number: is required; username: must be 1-64 characters"

theorem describe_nobody : describe (createSchema.flaws nobody) = nobodysNotice := by
  have same : nobodysFlaws.Perm (createSchema.flaws nobody) := by decide +kernel
  rw [describe_of_sorted same (by decide +kernel)]
  decide +kernel

/-- Nobody breaks all five rules, is told so in the order of the fields, and does not enter the
directory. -/
theorem rules_decide_body_sample :
    ∃ service d, (hallSettings "user" "admin").launch .epoch true = .ok (service, d)
      ∧ Schema.declaresJson blankApplication.request = true
      ∧ createSchema.record? blankApplication.request.body = some nobody
      ∧ (∀ accepted, createSchema.accept blankApplication.request ≠ .ok accepted)
      ∧ ∃ recorder, service.respond blankApplication ⟨d, .empty⟩
          = some (Service.finish blankApplication (service.dress blankApplication
              (ApiError.validation nobodysNotice).response), [], ⟨d, recorder⟩) := by
  obtain ⟨⟨service, d⟩, launched⟩ :
      ∃ x, (hallSettings "user" "admin").launch .epoch true = .ok x := ⟨_, rfl⟩
  obtain ⟨-, console⟩ := tokens_of_launch_hall launched
  have declared : Schema.declaresJson blankApplication.request = true := rfl
  have read : createSchema.record? blankApplication.request.body = some nobody := by
    decide +kernel
  obtain ⟨decides, unchanged, -, reachesNothing⟩ :=
    Submission.rules_decide_body .newOperator declared read
  have broken : ¬ ∀ rule ∈ Submission.newOperator.rules, rule.Holds nobody := by
    intro keeps
    have named : 1 ≤ nobody.firstName.length :=
      keeps (.required "first_name" NewOperator.firstName) List.mem_cons_self
    exact absurd named (by decide)
  have refused : createSchema.accept blankApplication.request
      = .error (.validation nobodysNotice) := by
    rw [← describe_nobody]
    exact @Submission.accept_of_broken .newOperator _ _ declared read broken
  have leads : service.destination? blankApplication.request = some (.directory .create) :=
    service.destination?_of_route rfl rfl (by decide +kernel) (by decide +kernel)
      (by decide +kernel)
  have known : service.beforeBody (.directory .create) blankApplication = .ok () := by
    simp only [Service.beforeBody, operator_of_hallToken (c := blankApplication) console rfl rfl]
    rfl
  have away := reachesNothing service blankApplication ⟨d, .empty⟩ _ _ rfl leads rfl refused
  refine ⟨service, d, launched, declared, read, fun accepted handed => ?_,
    away.told known fun same => by cases same⟩
  rw [unchanged accepted handed] at handed
  exact broken (decides.mp handed)

end StudyHall
