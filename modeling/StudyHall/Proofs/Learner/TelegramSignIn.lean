import StudyHall.Learner.Telegram
import StudyHall.Proofs.Auth.TokenRoundTrip
import StudyHall.Proofs.Calendar.Later
import StudyHall.Proofs.Learner.Protocol

/-!
# Signing in through Telegram is one transaction

A sign-in keeps a protocol of seven stages: the transaction is begun, the learner is looked up, a
learner who is found is marked as logged in and one who is not gets an account and then empty
progress, and the transaction is committed. Every statement has a place in this order, and each
step of the protocol moves on to a later place. So no statement is sent twice, and there is none
after the commit.

Only once the transaction is committed is the token signed, for the row that was found or made. It
is accepted at the time of its signing if its lifetime does not lead back.

## Main results

* `keeps_account` — the account of a learner is obtained by the protocol.
* `ascends_of_conversation` — a conversation moves through the places in order.
* `conversation_committed_iff` — the two conversations that end with a commit.
* `telegram_sign_in_is_one_transaction` — every run of a sign-in.
-/

namespace StudyHall

namespace TelegramSignIn

open Session

/-! ## The protocol -/

/-- How far a sign-in is. -/
inductive Stage where
  | idle
  | begun
  | found (u : UserRecord)
  | absent
  | created (u : UserRecord)
  | ready (u : UserRecord)
  | committed (u : UserRecord)

/-- The statements of a sign-in with the answers that lead on. Of several rows the first counts. -/
inductive Step (t : TelegramSignIn) : Stage → Exchange → Stage → Prop where
  | begin : Step t .idle ⟨.begin, ()⟩ .begun
  | known (u : UserRecord) (rest : List UserRecord) :
      Step t .begun ⟨.findByTelegramId t.telegramId, u :: rest⟩ (.found u)
  | unknown : Step t .begun ⟨.findByTelegramId t.telegramId, []⟩ .absent
  | login (u : UserRecord) :
      Step t (.found u) ⟨.touchLastLogin u.id u.primaryExam, ()⟩ (.ready u)
  | account (u : UserRecord) (rest : List UserRecord) :
      Step t .absent
        ⟨.createTelegramUser t.displayName t.telegramId t.exam.code Role.user.code, u :: rest⟩
        (.created u)
  | progress (u : UserRecord) :
      Step t (.created u) ⟨.createExamProfile u.id u.primaryExam, ()⟩ (.ready u)
  | commit (u : UserRecord) : Step t (.ready u) ⟨.commit, ()⟩ (.committed u)

/-- The row of a new learner, with an identifier and a time that the database chooses. -/
def newcomer (t : TelegramSignIn) (id : Uuid) (createdAt : Instant) : UserRecord :=
  ⟨id, t.displayName, none, some t.telegramId, t.exam.code, Role.user.code, createdAt⟩

variable (t : TelegramSignIn)

theorem keeps_welcomeBack (u : UserRecord) :
    Keeps t.Step (.found u) (welcomeBack u) fun v q => q = .ready v :=
  Keeps.send ⟨(), _, .login u⟩ fun _ => .inl ⟨_, .login u, Keeps.result rfl⟩

theorem keeps_register : Keeps t.Step .absent t.register fun v q => q = .ready v := by
  refine Keeps.send ⟨[t.newcomer (.ofNat 0) .epoch], _, .account _ []⟩ fun rows => ?_
  cases rows with
  | nil =>
      -- An insertion that brings no row back is the one answer that does not lead on.
      right
      constructor
      · intro q step
        cases step
      · rfl
  | cons u rest =>
      have written : Keeps t.Step (.created u)
          (do Session.send (.createExamProfile u.id u.primaryExam); Session.pure u)
          fun v q => q = .ready v :=
        Keeps.send ⟨(), _, .progress u⟩ fun _ => .inl ⟨_, .progress u, Keeps.result rfl⟩
      exact .inl ⟨_, .account u rest, written⟩

/-- The account of a learner is obtained by the protocol. -/
theorem keeps_account : Keeps t.Step .idle t.account fun u q => q = .committed u := by
  have closing (u : UserRecord) (q : Stage) (ready : q = .ready u) :
      Keeps t.Step q (do Session.send .commit; Session.pure u) fun v q => q = .committed v := by
    subst ready
    exact Keeps.send ⟨(), _, .commit u⟩ fun _ => .inl ⟨_, .commit u, Keeps.result rfl⟩
  refine Keeps.send ⟨(), _, .begin⟩ fun _ => .inl ⟨_, .begin, ?_⟩
  refine Keeps.send ⟨[], _, .unknown⟩ fun rows => .inl ?_
  cases rows with
  | nil => exact ⟨_, .unknown, (t.keeps_register).bind closing⟩
  | cons u rest => exact ⟨_, .known u rest, (t.keeps_welcomeBack u).bind closing⟩

/-! ## The order of the statements -/

/-- The place of a statement in a sign-in. -/
def place : Statement → Nat
  | .begin => 0
  | .findByTelegramId _ => 1
  | .touchLastLogin .. => 2
  | .createTelegramUser .. => 2
  | .createExamProfile .. => 3
  | _ => 4

/-- The place of the statements that are sent at a stage. -/
def Stage.place : Stage → Nat
  | .idle => 0
  | .begun => 1
  | .found _ => 2
  | .absent => 2
  | .created _ => 3
  | .ready _ => 4
  | .committed _ => 5

variable {t}

/-- A step sends a statement in its place and passes that. -/
theorem place_of_step {p q : Stage} {e : Exchange} (step : t.Step p e q) :
    place e.1 = p.place ∧ p.place < q.place := by
  cases step <;> simp [place, Stage.place]

/-- A conversation moves through the places in order. -/
theorem ascends_of_conversation {p q : Stage} {es : List Exchange}
    (talk : Conversation t.Step p es q) :
    (es.map Sigma.fst).Pairwise (fun a b => place a < place b)
      ∧ p.place ≤ q.place ∧ ∀ s ∈ es.map Sigma.fst, p.place ≤ place s ∧ place s < q.place := by
  induction talk with
  | nil p => exact ⟨.nil, Nat.le_refl _, List.forall_mem_nil _⟩
  | cons step _ ih =>
      -- The first step passes its place, and what follows has none before that of the next stage.
      obtain ⟨ordered, onward, within⟩ := ih
      obtain ⟨here, passed⟩ := place_of_step step
      refine ⟨List.pairwise_cons.mpr ⟨?_, ordered⟩, by omega, ?_⟩
      · intro s mem
        have bounds := within s mem
        omega
      · intro s mem
        rcases List.mem_cons.mp mem with rfl | mem
        · omega
        · have bounds := within s mem
          omega

/-- Statements whose places ascend are sent once each. -/
theorem nodup_of_ascends {sent : List Statement}
    (ascends : sent.Pairwise fun a b => place a < place b) : sent.Nodup :=
  List.nodup_iff_pairwise_ne.mpr <| ascends.imp fun passed same => by
    rw [same] at passed
    exact Nat.lt_irrefl _ passed

/-- A statement that is sent after a conversation has not been sent in it, and if it can be sent at
all the transaction is still open. -/
theorem ascends_append_next {p q : Stage} {es : List Exchange} {s : Statement}
    (talk : Conversation t.Step p es q) (next : Expects t.Step q s) :
    (es.map Sigma.fst ++ [s]).Pairwise (fun a b => place a < place b)
      ∧ .commit ∉ es.map Sigma.fst := by
  obtain ⟨ordered, -, within⟩ := ascends_of_conversation talk
  obtain ⟨a, r, step⟩ := next
  have here : place s = q.place := (place_of_step step).1
  constructor
  · refine List.pairwise_append.mpr ⟨ordered, List.pairwise_singleton _ _, ?_⟩
    intro b mem c last
    obtain rfl := List.mem_singleton.mp last
    have bounds := within b mem
    omega
  · intro mem
    have bounds := within _ mem
    have last : place s ≤ place .commit := by cases step <;> simp [place]
    omega

/-! ## Conversations that end with a commit -/

/-- What follows a stage at which the commit is due. -/
theorem of_ready {es : List Exchange} {q : Stage} {u : UserRecord}
    (talk : Conversation t.Step (.ready u) es q) :
    es = [] ∧ q = .ready u ∨ es = [⟨.commit, ()⟩] ∧ q = .committed u := by
  cases talk with
  | nil => exact .inl ⟨rfl, rfl⟩
  | cons step rest =>
      cases step
      cases rest with
      | nil => exact .inr ⟨rfl, rfl⟩
      | cons more _ => cases more

/-- A sign-in whose transaction is committed sent four statements if the learner is known, and five
if not. -/
theorem conversation_committed_iff {es : List Exchange} {u : UserRecord} :
    Conversation t.Step .idle es (.committed u) ↔
      ∃ rest,
        es = [⟨.begin, ()⟩, ⟨.findByTelegramId t.telegramId, u :: rest⟩,
            ⟨.touchLastLogin u.id u.primaryExam, ()⟩, ⟨.commit, ()⟩]
          ∨ es = [⟨.begin, ()⟩, ⟨.findByTelegramId t.telegramId, []⟩,
            ⟨.createTelegramUser t.displayName t.telegramId t.exam.code Role.user.code, u :: rest⟩,
            ⟨.createExamProfile u.id u.primaryExam, ()⟩, ⟨.commit, ()⟩] := by
  have closed {u v : UserRecord} {es : List Exchange}
      (talk : Conversation t.Step (.ready v) es (.committed u)) : v = u ∧ es = [⟨.commit, ()⟩] := by
    obtain ⟨-, same⟩ | ⟨rfl, same⟩ := of_ready talk
    · cases same
    · cases same
      exact ⟨rfl, rfl⟩
  constructor
  · intro talk
    obtain _ | ⟨opening, talk⟩ := talk
    cases opening
    obtain _ | ⟨lookup, talk⟩ := talk
    cases lookup with
    | known v rest =>
        obtain _ | ⟨login, talk⟩ := talk
        cases login
        obtain ⟨rfl, rfl⟩ := closed talk
        exact ⟨rest, .inl rfl⟩
    | unknown =>
        obtain _ | ⟨account, talk⟩ := talk
        cases account with
        | account v rest =>
            obtain _ | ⟨progress, talk⟩ := talk
            cases progress
            obtain ⟨rfl, rfl⟩ := closed talk
            exact ⟨rest, .inr rfl⟩
  · rintro ⟨rest, rfl | rfl⟩
    · exact .cons .begin (.cons (.known u rest) (.cons (.login u) (.cons (.commit u) (.nil _))))
    · exact .cons .begin (.cons .unknown (.cons (.account u rest) (.cons (.progress u)
        (.cons (.commit u) (.nil _)))))

/-! ## The token -/

/-- What a view says about whose it is was stored. -/
theorem of_toView {u : UserRecord} {view : UserView} (viewed : u.toView = .ok view) :
    view.id = u.id ∧ Exam.parse u.primaryExam = .ok view.primaryExam
      ∧ Role.parse u.role = .ok view.role := by
  unfold UserRecord.toView at viewed
  split at viewed
  · cases viewed
  · next exam examRead =>
      split at viewed
      · cases viewed
      · next role roleRead =>
          cases viewed
          exact ⟨rfl, examRead, roleRead⟩

/-- A response to a sign-in has the view of the row and a token for it. -/
theorem of_present {tokens : TokenService} {now : Instant} {u : UserRecord} {a : AuthResponse}
    (presented : present tokens now u = .ok a) :
    u.toView = .ok a.user
      ∧ tokens.sign a.user.id a.user.role (some a.user.primaryExam) now = .ok a.accessToken := by
  unfold present at presented
  split at presented
  · cases presented
  · next view viewed =>
      split at presented
      · next token signed =>
          cases presented
          exact ⟨viewed, signed⟩
      · cases presented

/-- A token that does not lead back is accepted at the time of its signing. -/
theorem verify_of_forward {tokens : TokenService} {now : Instant} {id : Uuid} {role : Role}
    {exam : Option Exam} {token : String} (signed : tokens.sign id role exam now = .ok token)
    (minute : 60 ≤ now.seconds) (forward : 0 ≤ tokens.lifetime.nanos) :
    tokens.verify token now = .ok ⟨id, role, exam⟩ := by
  obtain ⟨expiry, lasts, verified⟩ := TokenService.verify_of_sign signed minute
  have order := Instant.seconds_le_of_after? lasts forward
  rw [verified, if_pos ⟨by omega, by omega⟩]

/-! ## Runs -/

/-- Whatever the database answers, a sign-in sends the statements of one conversation of the
protocol, each of them once.

Either the conversation takes place as a whole. Then the transaction is committed, and a response
other than a fault is for the row that was found or made, with a token that is accepted at once if
its lifetime does not lead back. Or it breaks off at a statement which is refused, or which does not
bring the row that is asked for. Then this statement is the last one, nothing has been committed,
and the sign-in ends with a fault of the database. -/
theorem telegram_sign_in_is_one_transaction (t : TelegramSignIn) (tokens : TokenService)
    (now : Instant) (db : Database) :
    (t.run tokens now db).1.Nodup
      ∧ ((∃ u es, Conversation t.Step .idle es (.committed u) ∧ db.Gave es
            ∧ t.run tokens now db = (es.map Sigma.fst, present tokens now u)
            ∧ ∀ a, present tokens now u = .ok a →
              a.user.id = u.id ∧ Exam.parse u.primaryExam = .ok a.user.primaryExam
                ∧ Role.parse u.role = .ok a.user.role
                ∧ (60 ≤ now.seconds → 0 ≤ tokens.lifetime.nanos →
                  tokens.verify a.accessToken now
                    = .ok ⟨a.user.id, a.user.role, some a.user.primaryExam⟩))
        ∨ ∃ q es s, Conversation t.Step .idle es q ∧ db.Gave es
            ∧ Expects t.Step q s ∧ Stuck t.Step db q s ∧ .commit ∉ es.map Sigma.fst
            ∧ t.run tokens now db
              = (db.receives (es.map Sigma.fst ++ [s]),
                  .error (.refused (.database (db.complaint s))))) := by
  have ran := t.keeps_account db
  have signing : t.run tokens now db
      = Session.bind t.account (fun u => Session.ofExcept (present tokens now u)) db := rfl
  unfold Session.bind Session.ofExcept at signing
  generalize t.account db = account at ran signing
  cases ran with
  | @finished q es u talk gave arrived =>
      subst arrived
      simp only [List.append_nil] at signing
      have once := nodup_of_ascends (ascends_of_conversation talk).1
      refine ⟨by rw [signing]; exact once, .inl ⟨u, es, talk, gave, signing, ?_⟩⟩
      intro a presented
      obtain ⟨viewed, signed⟩ := of_present presented
      obtain ⟨id, exam, role⟩ := of_toView viewed
      exact ⟨id, exam, role, verify_of_forward signed⟩
  | @broken q es s talk gave next stuck =>
      obtain ⟨ascends, noCommit⟩ := ascends_append_next talk next
      have once : (db.receives (es.map Sigma.fst ++ [s])).Nodup := by
        cases db with
        | unreachable => exact List.nodup_nil
        | answering answer => exact nodup_of_ascends ascends
      exact ⟨by rw [signing]; exact once,
        .inr ⟨q, es, s, talk, gave, next, stuck, noCommit, signing⟩⟩

/-- A learner who signs in. -/
def sampleSignIn : TelegramSignIn := ⟨"42", "Ada", .jee⟩

/-- How the learner is shown. -/
def sampleView : UserView := ⟨.ofNat 7, "Ada", none, some "42", .jee, .user, .epoch⟩

/-- A database that knows the given learners and takes no new ones. -/
def closedRolls (known : List UserRecord) : Database :=
  .answering fun
    | .begin => .ok ()
    | .findByTelegramId _ => .ok known
    | .touchLastLogin .. => .ok ()
    | .commit => .ok ()
    | _ => .error "closed"

theorem telegram_sign_in_is_one_transaction_sample :
    (∃ a,
        sampleSignIn.run TokenService.sampleService firstMinute
            (closedRolls [sampleSignIn.newcomer (.ofNat 7) .epoch])
          = ([.begin, .findByTelegramId "42", .touchLastLogin (.ofNat 7) "JEE", .commit], .ok a)
        ∧ TokenService.sampleService.verify a.accessToken firstMinute
          = .ok ⟨.ofNat 7, .user, some .jee⟩)
      ∧ sampleSignIn.run TokenService.sampleService firstMinute (closedRolls [])
        = ([.begin, .findByTelegramId "42", .createTelegramUser "Ada" "42" "JEE" "USER"],
            .error (.refused (.database "closed"))) := by
  have lasts : firstMinute.after? TokenService.sampleService.lifetime
      = some ⟨3660, 0, by decide⟩ := by
    decide +kernel
  obtain ⟨token, signed⟩ :
      ∃ token, TokenService.sampleService.sign (.ofNat 7) .user (some .jee) firstMinute
        = .ok token := ⟨_, TokenService.sign_of_after? _ _ _ lasts⟩
  have viewed : (sampleSignIn.newcomer (.ofNat 7) .epoch).toView = .ok sampleView := rfl
  have signedIn : sampleSignIn.run TokenService.sampleService firstMinute
        (closedRolls [sampleSignIn.newcomer (.ofNat 7) .epoch])
      = ([.begin, .findByTelegramId "42", .touchLastLogin (.ofNat 7) "JEE", .commit],
          .ok ⟨token, sampleView⟩) := by
    have presented : present TokenService.sampleService firstMinute
        (sampleSignIn.newcomer (.ofNat 7) .epoch) = .ok ⟨token, sampleView⟩ := by
      unfold present
      rw [viewed]
      simp only [sampleView, signed]
    rw [← presented]
    rfl
  refine ⟨⟨_, signedIn, ?_⟩, rfl⟩
  obtain ⟨-, whole | broken⟩ := telegram_sign_in_is_one_transaction sampleSignIn
    TokenService.sampleService firstMinute (closedRolls [sampleSignIn.newcomer (.ofNat 7) .epoch])
  · obtain ⟨u, es, -, -, run, told⟩ := whole
    rw [signedIn] at run
    obtain ⟨-, presented⟩ := Prod.mk.inj run
    obtain ⟨-, -, -, verified⟩ := told _ presented.symm
    exact verified (by decide) (by decide +kernel)
  · obtain ⟨_, _, _, -, -, -, -, -, run⟩ := broken
    rw [signedIn] at run
    obtain ⟨-, failed⟩ := Prod.mk.inj run
    cases failed

end TelegramSignIn

end StudyHall
