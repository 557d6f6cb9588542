import StudyHall.Proofs.Learner.TelegramSignIn

/-!
# Sign-ins that fail after their commit

The statements of a sign-in are sent before anything is made of the account that they bring. So a
sign-in can fail although its commit has been sent: the commit itself is refused, or it is granted
and no response can be made for the account. There is none if the row holds a code that names no
exam or no role, and none if the lifetime of a token leads beyond the calendar. What the sign-in
wrote then stays.

These are the only ways. Every other failure comes before the commit.

## Main results

* `present_eq_error_iff` — when no response can be made for an account.
* `commit_mem_run_iff` — a commit is sent exactly when an account has been obtained.
* `run_of_ready` — what becomes of a sign-in with an account.
* `failed_after_commit_iff` — the sign-ins that fail after their commit was sent.
-/

namespace StudyHall

namespace TelegramSignIn

open Session

variable {t : TelegramSignIn} {tokens : TokenService} {now : Instant} {db : Database}
  {u : UserRecord}

/-! ## Accounts for which there is no response -/

/-- Why no response can be made for an account. Its exam is read first, then its role, and the
token is signed last. -/
inductive Unpresentable (tokens : TokenService) (now : Instant) (u : UserRecord) :
    Fault ApiError → Prop where
  | exam (unnamed : Exam.parse? u.primaryExam = none) :
      Unpresentable tokens now u (.refused (.internal
        ("user " ++ u.id.toText ++ ": " ++ UnknownCode.message ⟨.exam, u.primaryExam⟩)))
  | role {exam : Exam} (read : Exam.parse? u.primaryExam = some exam)
      (unnamed : Role.parse? u.role = none) :
      Unpresentable tokens now u (.refused (.internal
        ("user " ++ u.id.toText ++ ": " ++ UnknownCode.message ⟨.role, u.role⟩)))
  | token {view : UserView} (viewed : u.toView = .ok view)
      (late : now.after? tokens.lifetime = none) :
      Unpresentable tokens now u .outsideCalendar

/-- A row whose exam is none has no view. -/
theorem toView_of_exam (unnamed : Exam.parse? u.primaryExam = none) :
    u.toView = .error (.internal
      ("user " ++ u.id.toText ++ ": " ++ UnknownCode.message ⟨.exam, u.primaryExam⟩)) := by
  simp only [UserRecord.toView, Exam.parse, unnamed]

/-- Nor has one whose role is none. -/
theorem toView_of_role {exam : Exam} (read : Exam.parse? u.primaryExam = some exam)
    (unnamed : Role.parse? u.role = none) :
    u.toView = .error (.internal
      ("user " ++ u.id.toText ++ ": " ++ UnknownCode.message ⟨.role, u.role⟩)) := by
  simp only [UserRecord.toView, Exam.parse, read, Role.parse, unnamed]

theorem present_of_toView {cause : ApiError} (failed : u.toView = .error cause) :
    present tokens now u = .error (.refused cause) := by
  simp only [present, failed]

theorem present_of_late {view : UserView} (viewed : u.toView = .ok view)
    (late : now.after? tokens.lifetime = none) :
    present tokens now u = .error .outsideCalendar := by
  simp only [present, viewed, TokenService.sign_of_after?_none late]

/-- There is no response exactly for these reasons. -/
theorem present_eq_error_iff {fault : Fault ApiError} :
    present tokens now u = .error fault ↔ Unpresentable tokens now u fault := by
  constructor
  · intro failed
    cases exam : Exam.parse? u.primaryExam with
    | none =>
        rw [present_of_toView (toView_of_exam exam)] at failed
        cases failed
        exact .exam exam
    | some e =>
        cases role : Role.parse? u.role with
        | none =>
            rw [present_of_toView (toView_of_role exam role)] at failed
            cases failed
            exact .role exam role
        | some r =>
            have viewed : u.toView = .ok
                ⟨u.id, u.displayName, u.email, u.telegramId, e, r, u.createdAt⟩ := by
              simp only [UserRecord.toView, Exam.parse, exam, Role.parse, role]
            cases lasts : now.after? tokens.lifetime with
            | none =>
                rw [present_of_late viewed lasts] at failed
                cases failed
                exact .token viewed lasts
            | some expiry =>
                simp only [present, viewed, TokenService.sign_of_after? _ _ _ lasts,
                  reduceCtorEq] at failed
  · intro reason
    cases reason with
    | exam unnamed => exact present_of_toView (toView_of_exam unnamed)
    | role read unnamed => exact present_of_toView (toView_of_role read unnamed)
    | token viewed late => exact present_of_late viewed late

/-! ## Runs up to the commit -/

/-- A sign-in leaves no choice. -/
theorem forced_step : Forced t.Step where
  statement step other := by cases step <;> cases other <;> rfl
  stage step other := by cases step <;> cases other <;> rfl

/-- A sign-in sends what it takes to obtain the account. -/
theorem run_eq (t : TelegramSignIn) (tokens : TokenService) (now : Instant) (db : Database) :
    t.run tokens now db = ((t.account db).1, (t.account db).2 >>= present tokens now) := by
  change Session.bind t.account (fun u => Session.ofExcept (present tokens now u)) db = _
  unfold Session.bind Session.ofExcept
  rcases t.account db with ⟨sent, fault | u⟩
  · rfl
  · simp only [List.append_nil, Bind.bind, Except.bind]

/-- A sign-in with an account sends its commit, and no more. What it ends with is said by the
database if that refuses the commit; otherwise it is the response for the account. -/
theorem run_of_ready {es : List Exchange} (talk : Conversation t.Step .idle es (.ready u))
    (gave : db.Gave es) :
    t.run tokens now db
      = (es.map Sigma.fst ++ [Statement.commit],
          match db.reply .commit with
          | .ok () => present tokens now u
          | .error text => .error (.refused (.database text))) := by
  have ran := t.keeps_account db
  have final : ∀ (v : UserRecord) q e r, q = .committed v → ¬ t.Step q e r := by
    intro v q e r arrived step
    subst arrived
    cases step
  have listening : db.receives [.commit] = [.commit] := by
    cases talk with
    | cons step rest => exact Database.receives_of_reply (gave _ List.mem_cons_self) _
  obtain ⟨more, sent, ran⟩ := ran.along forced_step final talk gave
  rw [run_eq, sent]
  generalize (t.account db).2 = result at ran
  cases ran with
  | finished talk gave arrived =>
      obtain ⟨rfl, same⟩ | ⟨rfl, same⟩ := of_ready talk
      · cases arrived.symm.trans same
      · cases arrived.symm.trans same
        have granted : db.reply .commit = .ok () := gave _ List.mem_cons_self
        simp only [granted, Bind.bind, Except.bind, List.map_cons, List.map_nil]
  | @broken q _ s talk gave next stuck =>
      obtain ⟨a, r, step⟩ := next
      obtain ⟨rfl, rfl⟩ | ⟨rfl, rfl⟩ := of_ready talk
      · cases step
        cases answered : db.reply .commit with
        | ok a => exact absurd (.commit u) (stuck a _ answered)
        | error text =>
            have told : db.complaint .commit = text := by
              simp only [Database.complaint, answered]
            simp only [told, List.map_nil, List.nil_append, listening, Bind.bind, Except.bind]
      · cases step

/-- A commit is sent exactly when an account has been obtained. -/
theorem commit_mem_run_iff :
    .commit ∈ (t.run tokens now db).1 ↔
      ∃ u es, Conversation t.Step .idle es (.ready u) ∧ db.Gave es := by
  constructor
  · intro sent
    have ran := t.keeps_account db
    rw [run_eq] at sent
    generalize t.account db = account at ran sent
    cases ran with
    | @finished q es u talk gave arrived =>
        subst arrived
        -- The last exchange is the one that leads to the commit.
        rcases List.eq_nil_or_concat es with rfl | ⟨before, last, rfl⟩
        · cases talk
        · rw [List.concat_eq_append] at talk gave
          obtain ⟨q, first, ending⟩ := talk.of_append
          cases ending with
          | cons step rest =>
              cases rest
              cases step
              exact ⟨u, before, first, fun e mem => gave e (List.mem_append_left _ mem)⟩
    | @broken q es s talk gave next stuck =>
        have uncommitted := (ascends_append_next talk next).2
        have last : s = .commit := by
          cases db with
          | unreachable => cases sent
          | answering answer =>
              rcases List.mem_append.mp sent with early | late
              · exact absurd early uncommitted
              · exact (List.mem_singleton.mp late).symm
        subst last
        obtain ⟨_, _, step⟩ := next
        cases step with
        | commit u => exact ⟨u, es, talk, gave⟩
  · rintro ⟨u, es, talk, gave⟩
    rw [run_of_ready talk gave]
    exact List.mem_append_right _ List.mem_cons_self

/-! ## Failures after the commit -/

/-- A sign-in that fails has sent its commit in two cases only, and in both the commit was the last
statement: the account was obtained, and then the database refused the commit, or granted it but
no response can be made for the account. -/
theorem failed_after_commit_iff {sent : List Statement} {fault : Fault ApiError} :
    t.run tokens now db = (sent, .error fault) ∧ .commit ∈ sent ↔
      ∃ u es, Conversation t.Step .idle es (.ready u) ∧ db.Gave es
        ∧ sent = es.map Sigma.fst ++ [.commit]
        ∧ ((∃ text, db.reply .commit = .error text ∧ fault = .refused (.database text))
          ∨ db.reply .commit = .ok () ∧ Unpresentable tokens now u fault) := by
  constructor
  · rintro ⟨run, committed⟩
    have obtained : .commit ∈ (t.run tokens now db).1 := by
      rw [run]
      exact committed
    obtain ⟨u, es, talk, gave⟩ := commit_mem_run_iff.mp obtained
    rw [run_of_ready talk gave] at run
    obtain ⟨rfl, ended⟩ := Prod.mk.inj run
    refine ⟨u, es, talk, gave, rfl, ?_⟩
    cases answered : db.reply .commit with
    | error text =>
        simp only [answered, Except.error.injEq] at ended
        exact .inl ⟨text, rfl, ended.symm⟩
    | ok a =>
        simp only [answered] at ended
        exact .inr ⟨rfl, present_eq_error_iff.mp ended⟩
  · rintro ⟨u, es, talk, gave, rfl, outcome⟩
    refine ⟨?_, List.mem_append_right _ List.mem_cons_self⟩
    rw [run_of_ready talk gave]
    obtain ⟨text, answered, rfl⟩ | ⟨answered, reason⟩ := outcome
    · rw [answered]
    · rw [answered]
      simp only [present_eq_error_iff.mpr reason]

/-- A known learner whose row names an examination that is none is marked as logged in, and that is
committed before the sign-in fails. -/
theorem login_kept_by_failure :
    sampleSignIn.run TokenService.sampleService firstMinute
        (closedRolls [{ sampleSignIn.newcomer (.ofNat 7) .epoch with primaryExam := "GRE" }])
      = ([.begin, .findByTelegramId "42", .touchLastLogin (.ofNat 7) "GRE", .commit],
          .error (.refused (.internal
            "user 00000000-0000-0000-0000-000000000007: invalid exam: GRE"))) := by
  rfl

end TelegramSignIn

end StudyHall
