import StudyHall.Learner.Database

/-!
# Sessions that keep a protocol

A protocol says, for every stage of a session, which statements may be sent, and which stage each
answer leads to. A session keeps it from a stage on if, whatever the database answers, the
statements it sends are those of a conversation of the protocol: either the conversation reaches
a stage where the session has its result, or it breaks off at the first statement that is not
answered as the protocol wants it, and that statement is the last one.

The rules below follow the way a session is written: one for a session that sends nothing more, one
for a statement and what follows it, and one for two sessions in a row.

Some protocols leave no choice. Then the answers of a database settle the conversation, and every
run begins with whatever conversation those answers allow.

## Main results

* `Conversation.append` — two conversations in a row.
* `Forced.goes_on` — of two conversations with one database, one goes on from the other.
* `Session.Ran.along` — a run begins with every conversation that has taken place.
* `Session.Keeps.result`, `Session.Keeps.send`, `Session.Keeps.bind` — the rules.
-/

namespace StudyHall

/-! ## Answers of a database -/

/-- A statement with what came back. -/
abbrev Exchange := (s : Statement) × s.Answer

namespace Database

/-- What comes back from a statement. -/
def reply : Database → (s : Statement) → Except String s.Answer
  | .unreachable, _ => .error "no connection"
  | .answering answer, s => answer s

/-- Those of some statements that get to the database. -/
def receives : Database → List Statement → List Statement
  | .unreachable, _ => []
  | .answering _, sent => sent

/-- What is told about a statement that did not bring what was wanted: the words of the database,
or that there is no row. -/
def complaint (db : Database) (s : Statement) : String :=
  match db.reply s with
  | .ok _ => "no row"
  | .error text => text

/-- Whether the database gave the answers of some exchanges. -/
def Gave (db : Database) (es : List Exchange) : Prop :=
  ∀ e ∈ es, db.reply e.1 = .ok e.2

variable {db : Database}

theorem gave_nil : db.Gave [] :=
  List.forall_mem_nil _

theorem Gave.append {es fs : List Exchange} (first : db.Gave es) (second : db.Gave fs) :
    db.Gave (es ++ fs) := by
  intro e mem
  rcases List.mem_append.mp mem with mem | mem
  · exact first e mem
  · exact second e mem

/-- A database that answered gets whatever is sent. -/
theorem receives_of_reply {s : Statement} {a : s.Answer} (answered : db.reply s = .ok a)
    (sent : List Statement) : db.receives sent = sent := by
  cases db with
  | unreachable => cases answered
  | answering answer => rfl

/-- So does one that has already answered something. -/
theorem Gave.append_receives {es : List Exchange} (gave : db.Gave es) (sent : List Statement) :
    es.map Sigma.fst ++ db.receives sent = db.receives (es.map Sigma.fst ++ sent) := by
  cases es with
  | nil => rfl
  | cons e es =>
      have answered := gave e List.mem_cons_self
      rw [receives_of_reply answered, receives_of_reply answered]

end Database

namespace Session

variable {db : Database} {s : Statement}

theorem send_of_ok {a : s.Answer} (answered : db.reply s = .ok a) : send s db = ([s], .ok a) := by
  cases db with
  | unreachable => cases answered
  | answering answer =>
      have given : answer s = .ok a := answered
      simp only [send, given]

theorem send_of_error {text : String} (failed : db.reply s = .error text) :
    send s db = (db.receives [s], .error (.refused (.database (db.complaint s)))) := by
  cases db with
  | unreachable => rfl
  | answering answer =>
      have given : answer s = .error text := failed
      simp only [send, Database.receives, Database.complaint, Database.reply, given]

end Session

/-! ## Protocols -/

variable {σ : Type} {Step : σ → Exchange → σ → Prop}

/-- Exchanges that lead from one stage of a protocol to another. -/
inductive Conversation (Step : σ → Exchange → σ → Prop) : σ → List Exchange → σ → Prop where
  | nil (p : σ) : Conversation Step p [] p
  | cons {p q r : σ} {e : Exchange} {es : List Exchange} (step : Step p e q)
      (rest : Conversation Step q es r) : Conversation Step p (e :: es) r

theorem Conversation.append {p q r : σ} {es fs : List Exchange} (first : Conversation Step p es q)
    (second : Conversation Step q fs r) : Conversation Step p (es ++ fs) r := by
  induction first with
  | nil => exact second
  | cons step _ ih => exact .cons step (ih second)

theorem Conversation.of_append {p r : σ} {es fs : List Exchange}
    (whole : Conversation Step p (es ++ fs) r) :
    ∃ q, Conversation Step p es q ∧ Conversation Step q fs r := by
  induction es generalizing p with
  | nil => exact ⟨p, .nil p, whole⟩
  | cons e es ih =>
      cases whole with
      | cons step rest =>
          obtain ⟨q, first, second⟩ := ih rest
          exact ⟨q, .cons step first, second⟩

/-- Whether a statement may be sent at a stage. -/
def Expects (Step : σ → Exchange → σ → Prop) (p : σ) (s : Statement) : Prop :=
  ∃ a q, Step p ⟨s, a⟩ q

/-- Whether the database answers a statement in a way that does not lead on, or not at all. -/
def Stuck (Step : σ → Exchange → σ → Prop) (db : Database) (p : σ) (s : Statement) : Prop :=
  ∀ a q, db.reply s = .ok a → ¬ Step p ⟨s, a⟩ q

/-- A protocol that leaves no choice: a stage has one statement, and an answer leads to one
stage. -/
structure Forced (Step : σ → Exchange → σ → Prop) : Prop where
  statement {p q r : σ} {e f : Exchange} (step : Step p e q) (other : Step p f r) : e.1 = f.1
  stage {p q r : σ} {e : Exchange} (step : Step p e q) (other : Step p e r) : q = r

/-- Of two conversations with one database, the one that has come to an end goes on from the
other. -/
theorem Forced.goes_on {db : Database} (forced : Forced Step) {p q r : σ} {es fs : List Exchange}
    (talk : Conversation Step p es q) (gave : db.Gave es) (whole : Conversation Step p fs r)
    (gaveWhole : db.Gave fs) (ended : ∀ e s, Step r e s → db.reply e.1 ≠ .ok e.2) :
    ∃ rest, fs = es ++ rest ∧ Conversation Step q rest r := by
  induction talk generalizing fs with
  | nil p => exact ⟨fs, rfl, whole⟩
  | @cons p q _ e es step _ ih =>
      have answered : db.reply e.1 = .ok e.2 := gave e List.mem_cons_self
      cases whole with
      | nil => exact absurd answered (ended e q step)
      | @cons _ q' _ f fs step' further =>
          have same : e = f := by
            have answered' : db.reply f.1 = .ok f.2 := gaveWhole f List.mem_cons_self
            obtain ⟨s, a⟩ := e
            obtain ⟨s', a'⟩ := f
            obtain rfl : s = s' := forced.statement step step'
            obtain rfl : a = a' := Except.ok.inj (answered.symm.trans answered')
            rfl
          subst same
          obtain rfl : q = q' := forced.stage step step'
          obtain ⟨rest, rfl, talked⟩ := ih (fun e mem => gave e (List.mem_cons_of_mem _ mem))
            further (fun e mem => gaveWhole e (List.mem_cons_of_mem _ mem))
          exact ⟨rest, rfl, talked⟩

namespace Session

variable {α β : Type}

/-- What a session that keeps a protocol can leave behind: either it is finished, at a stage that
goes with its result, or it broke off at a statement that did not lead on. -/
inductive Ran (Step : σ → Exchange → σ → Prop) (db : Database) (p : σ) (goal : α → σ → Prop) :
    List Statement × Except (Fault ApiError) α → Prop where
  | finished {q : σ} {es : List Exchange} {a : α} (talk : Conversation Step p es q)
      (gave : db.Gave es) (arrived : goal a q) : Ran Step db p goal (es.map Sigma.fst, .ok a)
  | broken {q : σ} {es : List Exchange} {s : Statement} (talk : Conversation Step p es q)
      (gave : db.Gave es) (next : Expects Step q s) (stuck : Stuck Step db q s) :
      Ran Step db p goal
        (db.receives (es.map Sigma.fst ++ [s]),
          .error (.refused (.database (db.complaint s))))

/-- What is left behind when a conversation has taken place begins with that conversation, if the
protocol leaves no choice and nothing is sent once there is a result. -/
theorem Ran.along {db : Database} {p q : σ} {goal : α → σ → Prop} {es : List Exchange}
    {run : List Statement × Except (Fault ApiError) α} (forced : Forced Step)
    (final : ∀ a q e r, goal a q → ¬ Step q e r) (talk : Conversation Step p es q)
    (gave : db.Gave es) (ran : Ran Step db p goal run) :
    ∃ more, run.1 = es.map Sigma.fst ++ more ∧ Ran Step db q goal (more, run.2) := by
  cases ran with
  | @finished r _ a whole gaveWhole arrived =>
      have ended : ∀ e s, Step r e s → db.reply e.1 ≠ .ok e.2 :=
        fun e s step => absurd step (final a r e s arrived)
      obtain ⟨rest, rfl, further⟩ := forced.goes_on talk gave whole gaveWhole ended
      refine ⟨rest.map Sigma.fst, List.map_append, .finished further ?_ arrived⟩
      exact fun e mem => gaveWhole e (List.mem_append_right es mem)
  | @broken r _ s whole gaveWhole next stuck =>
      have ended : ∀ e t, Step r e t → db.reply e.1 ≠ .ok e.2 := by
        intro ⟨s', a⟩ t step answered
        obtain ⟨_, _, expected⟩ := next
        obtain rfl : s' = s := forced.statement step expected
        exact stuck a t answered step
      obtain ⟨rest, rfl, further⟩ := forced.goes_on talk gave whole gaveWhole ended
      have gaveRest : db.Gave rest := fun e mem => gaveWhole e (List.mem_append_right es mem)
      refine ⟨db.receives (rest.map Sigma.fst ++ [s]), ?_, .broken further gaveRest next stuck⟩
      simp only [gave.append_receives, List.map_append, List.append_assoc]

/-- Whether a session keeps a protocol from a stage on, whatever it is answered. -/
def Keeps (Step : σ → Exchange → σ → Prop) (p : σ) (x : Session α) (goal : α → σ → Prop) : Prop :=
  ∀ db, Ran Step db p goal (x db)

/-- What is left behind after some exchanges and then a session. -/
theorem Ran.after {db : Database} {p q : σ} {goal : α → σ → Prop} {es : List Exchange}
    {sent : List Statement} {result : Except (Fault ApiError) α}
    (talk : Conversation Step p es q) (gave : db.Gave es)
    (ran : Ran Step db q goal (sent, result)) :
    Ran Step db p goal (es.map Sigma.fst ++ sent, result) := by
  cases ran with
  | finished further gaveFurther arrived =>
      rw [← List.map_append]
      exact .finished (talk.append further) (gave.append gaveFurther) arrived
  | broken further gaveFurther next stuck =>
      rw [gave.append_receives, ← List.append_assoc, ← List.map_append]
      exact .broken (talk.append further) (gave.append gaveFurther) next stuck

namespace Keeps

variable {p : σ} {goal : β → σ → Prop}

/-- A session that sends nothing more is finished. -/
theorem result {b : β} (arrived : goal b p) : Keeps Step p (Session.pure b) goal :=
  fun _ => .finished (.nil p) Database.gave_nil arrived

/-- Two sessions in a row. -/
theorem bind {x : Session α} {f : α → Session β} {halfway : α → σ → Prop}
    (first : Keeps Step p x halfway)
    (second : ∀ a q, halfway a q → Keeps Step q (f a) goal) : Keeps Step p (x >>= f) goal := by
  intro db
  have ran := first db
  change Ran Step db p goal (Session.bind x f db)
  unfold Session.bind
  generalize x db = left at ran
  cases ran with
  | finished talk gave arrived => exact (second _ _ arrived db).after talk gave
  | broken talk gave next stuck => exact .broken talk gave next stuck

/-- A statement and what follows it. An answer that does not lead on can only be one without the
row that is asked for. -/
theorem send {s : Statement} {f : s.Answer → Session β} (next : Expects Step p s)
    (answers : ∀ a, (∃ q, Step p ⟨s, a⟩ q ∧ Keeps Step q (f a) goal)
      ∨ (∀ q, ¬ Step p ⟨s, a⟩ q) ∧ f a = Session.fail (.refused (.database "no row"))) :
    Keeps Step p (Session.send s >>= f) goal := by
  intro db
  change Ran Step db p goal (Session.bind (Session.send s) f db)
  unfold Session.bind
  cases reply : db.reply s with
  | error text =>
      have stuck : Stuck Step db p s := by
        intro a q answered
        rw [reply] at answered
        cases answered
      rw [send_of_error reply]
      exact .broken (.nil p) Database.gave_nil next stuck
  | ok a =>
      rw [send_of_ok reply]
      rcases answers a with ⟨q, step, keeps⟩ | ⟨noStep, failed⟩
      · have gave : db.Gave [⟨s, a⟩] := by
          intro e mem
          obtain rfl := List.mem_singleton.mp mem
          exact reply
        exact (keeps db).after (.cons step (.nil q)) gave
      · have stuck : Stuck Step db p s := by
          intro b q answered
          rw [reply] at answered
          cases answered
          exact noStep q
        have told : db.complaint s = "no row" := by
          unfold Database.complaint
          rw [reply]
        have broken : Ran Step db p goal (db.receives [s],
            .error (.refused (.database (db.complaint s)))) :=
          .broken (.nil p) Database.gave_nil next stuck
        rw [told, Database.receives_of_reply reply] at broken
        simp only [failed]
        exact broken

end Keeps

end Session

end StudyHall
