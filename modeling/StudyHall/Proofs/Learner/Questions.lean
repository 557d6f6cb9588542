import StudyHall.Learner.Pages
import StudyHall.Proofs.Text.Numeral

/-!
# What a page for learners asks the database first

A page reads at most one name in the query of its address, and then puts one question to the
database. Whether a query is refused, and which question it leads to otherwise, is said below in
terms of the texts that the query gives under that name: a name that is known may stand once, a
subject must be given and be an identifier, an exam must be one that there is, and the number of
places is the usual one where no number above zero is given.

## Main results

* `readQuery_single` — a query that is read for one name.
* `limit_bounds` — the number of places that is asked for.
* `question_of_asks`, `question_of_refuses`, `asks_or_refuses` — every query is refused or leads to
  one question, and not both.
-/

namespace StudyHall

open Text

/-! ## Queries that are read for one name -/

/-- The texts that a query gives under a name. -/
def Form.valuesOf (name : String) (query : List Char) : List String :=
  ((Form.pairs query).filter fun p => p.1 == name).map Prod.snd

/-- A query that is read for one name gives the text under it, if there is one, and may not give
two. -/
theorem readQuery_single {α : Type} (name : String) (query : List Char) (f : Option String → α) :
    (readQuery [name] query).map (fun given => f (given.lookup name))
      = if (Form.valuesOf name query).length ≤ 1 then .ok (f (Form.valuesOf name query).head?)
        else .error malformedQuery := by
  have named : (fun p : String × String => [name].contains p.1) = fun p => p.1 == name := by
    funext p
    rw [Bool.eq_iff_iff]
    simp
  unfold readQuery Form.expected? Form.valuesOf
  rw [named]
  have own : ∀ p ∈ (Form.pairs query).filter fun p => p.1 == name, p.1 = name := fun p mem => by
    simpa using (List.mem_filter.mp mem).2
  generalize (Form.pairs query).filter (fun p => p.1 == name) = known at own
  -- Of what is left only the number of pairs counts: two of them repeat the name at once.
  match known, own with
  | [], _ => simp [Except.map]
  | [(given, text)], own =>
      obtain rfl : given = name := own _ List.mem_cons_self
      simp [Except.map]
  | p :: q :: rest, own =>
      have again : p.1 = q.1 :=
        (own p List.mem_cons_self).trans (own q (List.mem_cons_of_mem _ List.mem_cons_self)).symm
      simp [Except.map, again]

/-! ## Questions -/

/-- What a page asks the database first. -/
inductive Question where
  | account (id : Uuid)
  | subjects (exam : Option Exam)
  | topics (subject : Uuid)
  | places (limit : Nat)
  | posts
  deriving DecidableEq

/-- The statement of a question. -/
def Question.statement : Question → Statement
  | .account id => .findById id
  | .subjects exam => .listSubjects (exam.map Exam.code)
  | .topics subject => .listTopics subject
  | .places limit => .leaderboardEntries limit
  | .posts => .listPosts

namespace LearnerPage

/-- The question that a page puts for the holder of a token. -/
def question (page : LearnerPage) (id : Uuid) (query : List Char) : Except ApiError Question :=
  match page with
  | .me => .ok (.account id)
  | .subjects => (ExamQuery.read query >>= fun q => examOf q.exam).map .subjects
  | .topics => (TopicsQuery.read query >>= TopicsQuery.subject).map .topics
  | .leaderboard => (LeaderboardQuery.read query).map fun q => .places q.effective
  | .feed => .ok .posts

/-- The names that a page reads in the query of its address. -/
def names : LearnerPage → List String
  | .me => []
  | .subjects => ["exam"]
  | .topics => ["subjectId"]
  | .leaderboard => ["limit"]
  | .feed => []

/-- Why the query of a page is refused. -/
inductive Refuses (query : List Char) : LearnerPage → Prop where
  /-- A name that is known stands twice. -/
  | repeated {page : LearnerPage} {name : String} (known : name ∈ page.names)
      (again : 1 < (Form.valuesOf name query).length) : Refuses query page
  /-- The exam is none that there is. -/
  | exam {raw : Option String} {text : String} (given : Form.valuesOf "exam" query = raw.toList)
      (present : presentText raw = some text) (unknown : Exam.parse? text = none) :
      Refuses query .subjects
  /-- No subject is given. -/
  | noSubject {raw : Option String} (given : Form.valuesOf "subjectId" query = raw.toList)
      (blank : presentText raw = none) : Refuses query .topics
  /-- The subject is given by no identifier. -/
  | subject {raw : Option String} {text : String}
      (given : Form.valuesOf "subjectId" query = raw.toList)
      (present : presentText raw = some text) (unknown : Uuid.parse? text = none) :
      Refuses query .topics

/-- The question that the query of a page leads to, for the holder of a token. -/
inductive Asks (id : Uuid) (query : List Char) : LearnerPage → Question → Prop where
  | me : Asks id query .me (.account id)
  | anyExam {raw : Option String} (given : Form.valuesOf "exam" query = raw.toList)
      (blank : presentText raw = none) : Asks id query .subjects (.subjects none)
  | exam {raw : Option String} {text : String} {exam : Exam}
      (given : Form.valuesOf "exam" query = raw.toList) (present : presentText raw = some text)
      (named : Exam.parse? text = some exam) : Asks id query .subjects (.subjects (some exam))
  | topics {raw : Option String} {text : String} {subject : Uuid}
      (given : Form.valuesOf "subjectId" query = raw.toList)
      (present : presentText raw = some text) (named : Uuid.parse? text = some subject) :
      Asks id query .topics (.topics subject)
  | places {text : String} {limit : Nat} (given : Form.valuesOf "limit" query = [text])
      (number : readUnsigned maxInt64 (trimChars text.toList) = .ok limit) (positive : 0 < limit) :
      Asks id query .leaderboard (.places limit)
  /-- No text that is given is a number above zero. -/
  | usualPlaces {raw : Option String} (given : Form.valuesOf "limit" query = raw.toList)
      (noNumber : ∀ text ∈ raw, ∀ limit,
        readUnsigned maxInt64 (trimChars text.toList) = .ok limit → limit = 0) :
      Asks id query .leaderboard (.places 20)
  | feed : Asks id query .feed .posts

variable {page : LearnerPage} {id : Uuid} {query : List Char} {q : Question}

/-! ## Single values -/

/-- Digits are read up to the limit. -/
theorem readDigits_le {limit acc n : Nat} {overflow : NumeralError} {cs : List Char}
    (read : readDigits limit overflow acc cs = .ok n) (start : acc ≤ limit) : n ≤ limit := by
  induction cs generalizing acc with
  | nil =>
      cases read
      exact start
  | cons c cs ih =>
      unfold readDigits at read
      split at read
      · cases read
      · split at read
        · cases read
        · next within => exact ih read (Nat.not_lt.mp within)

/-- So is a numeral. -/
theorem readUnsigned_le {limit n : Nat} {cs : List Char} (read : readUnsigned limit cs = .ok n) :
    n ≤ limit := by
  unfold readUnsigned at read
  split at read
  · cases read
  · cases read
  · exact readDigits_le read (Nat.zero_le _)
  · exact readDigits_le read (Nat.zero_le _)

/-- The number of places that is asked for is above zero and has 63 bits. -/
theorem limit_bounds {limit : Nat} (asks : Asks id query page (.places limit)) :
    1 ≤ limit ∧ limit ≤ maxInt64 := by
  cases asks with
  | places _ number positive => exact ⟨positive, readUnsigned_le number⟩
  | usualPlaces _ _ => decide

theorem examOf_of_blank {raw : Option String} (blank : presentText raw = none) :
    examOf raw = .ok none := by
  cases raw with
  | none => rfl
  | some text =>
      have none : trim text = "" := by simpa [presentText, Option.filter] using blank
      simp [examOf, none]

/-- A text that is there is looked up among the exams. -/
theorem examOf_of_named {raw : Option String} {text : String} {exam : Exam}
    (present : presentText raw = some text) (named : Exam.parse? text = some exam) :
    examOf raw = .ok (some exam) := by
  obtain ⟨trimmed, written⟩ := Option.filter_eq_some_iff.mp present
  have words : text ≠ "" := by simpa using written
  unfold examOf
  simp only [trimmed, if_neg words, named]

theorem examOf_of_unknown {raw : Option String} {text : String}
    (present : presentText raw = some text) (unknown : Exam.parse? text = none) :
    examOf raw = .error (.validation "invalid exam") := by
  obtain ⟨trimmed, written⟩ := Option.filter_eq_some_iff.mp present
  have words : text ≠ "" := by simpa using written
  unfold examOf
  simp only [trimmed, if_neg words, unknown]

/-- A subject is given by an identifier. -/
theorem subject_of_named {raw : Option String} {text : String} {subject : Uuid}
    (present : presentText raw = some text) (named : Uuid.parse? text = some subject) :
    TopicsQuery.subject ⟨raw⟩ = .ok subject := by
  unfold TopicsQuery.subject
  simp only [present, named]

theorem subject_of_unknown {raw : Option String} {text : String}
    (present : presentText raw = some text) (unknown : Uuid.parse? text = none) :
    TopicsQuery.subject ⟨raw⟩ = .error (.validation "invalid subjectId") := by
  unfold TopicsQuery.subject
  simp only [present, unknown]

theorem subject_of_blank {raw : Option String} (blank : presentText raw = none) :
    TopicsQuery.subject ⟨raw⟩ = .error (.validation "subjectId is required") := by
  unfold TopicsQuery.subject
  rw [blank]

theorem effective_of_number {text : String} {limit : Nat}
    (number : readUnsigned maxInt64 (trimChars text.toList) = .ok limit) (above : 0 < limit) :
    LeaderboardQuery.effective ⟨some text⟩ = limit := by
  have positive : 0 < (limit : Int) := by omega
  have signed : readSigned maxInt64 (trimChars text.toList) = .ok (limit : Int) :=
    (readSigned_eq_ok_iff_of_pos positive).mpr ⟨limit, number, rfl⟩
  unfold LeaderboardQuery.effective
  simp only [signed, if_pos positive, Int.toNat_natCast]

theorem effective_of_noNumber {raw : Option String}
    (noNumber : ∀ text ∈ raw, ∀ limit,
      readUnsigned maxInt64 (trimChars text.toList) = .ok limit → limit = 0) :
    LeaderboardQuery.effective ⟨raw⟩ = 20 := by
  unfold LeaderboardQuery.effective
  cases raw with
  | none => rfl
  | some text =>
      simp only
      split
      · next i signed =>
          have zero : ¬ 0 < i := by
            intro above
            obtain ⟨n, number, rfl⟩ := (readSigned_eq_ok_iff_of_pos above).mp signed
            have none := noNumber text rfl n number
            omega
          rw [if_neg zero]
          rfl
      · rfl

/-! ## Questions of single pages -/

/-- A query may be read for one name, and gives one value or none. -/
theorem readQuery_of_given {α : Type} {name : String} {raw : Option String}
    (given : Form.valuesOf name query = raw.toList) (f : Option String → α) :
    (readQuery [name] query).map (fun pairs => f (pairs.lookup name)) = .ok (f raw) := by
  rw [readQuery_single, given]
  cases raw <;> rfl

theorem question_subjects {raw : Option String}
    (given : Form.valuesOf "exam" query = raw.toList) :
    question .subjects id query = (examOf raw).map .subjects := by
  have read : ExamQuery.read query = .ok ⟨raw⟩ := readQuery_of_given given _
  unfold question
  rw [read]
  rfl

theorem question_topics {raw : Option String}
    (given : Form.valuesOf "subjectId" query = raw.toList) :
    question .topics id query = (TopicsQuery.subject ⟨raw⟩).map .topics := by
  have read : TopicsQuery.read query = .ok ⟨raw⟩ := readQuery_of_given given _
  unfold question
  rw [read]
  rfl

theorem question_leaderboard {raw : Option String}
    (given : Form.valuesOf "limit" query = raw.toList) :
    question .leaderboard id query = .ok (.places (LeaderboardQuery.effective ⟨raw⟩)) := by
  have read : LeaderboardQuery.read query = .ok ⟨raw⟩ := readQuery_of_given given _
  unfold question
  rw [read]
  rfl

/-- A name that is known may not stand twice. -/
theorem question_of_again {name : String} (known : name ∈ page.names)
    (again : 1 < (Form.valuesOf name query).length) :
    page.question id query = .error malformedQuery := by
  have malformed {α : Type} (f : Option String → α) :
      (readQuery [name] query).map (fun pairs => f (pairs.lookup name))
        = .error malformedQuery := by
    rw [readQuery_single, if_neg (Nat.not_le.mpr again)]
  cases page with
  | me => cases known
  | feed => cases known
  | subjects =>
      obtain rfl := List.mem_singleton.mp known
      have read : ExamQuery.read query = .error malformedQuery := malformed _
      unfold question
      rw [read]
      rfl
  | topics =>
      obtain rfl := List.mem_singleton.mp known
      have read : TopicsQuery.read query = .error malformedQuery := malformed _
      unfold question
      rw [read]
      rfl
  | leaderboard =>
      obtain rfl := List.mem_singleton.mp known
      have read : LeaderboardQuery.read query = .error malformedQuery := malformed _
      unfold question
      rw [read]
      rfl

/-! ## Every query is refused or leads to one question -/

/-- A query leads to the question that it asks. -/
theorem question_of_asks (asks : Asks id query page q) : page.question id query = .ok q := by
  cases asks with
  | me => rfl
  | feed => rfl
  | anyExam given blank =>
      rw [question_subjects given, examOf_of_blank blank]
      rfl
  | exam given present named =>
      rw [question_subjects given, examOf_of_named present named]
      rfl
  | topics given present named =>
      rw [question_topics given, subject_of_named present named]
      rfl
  | @places text _ given number above =>
      have single : Form.valuesOf "limit" query = (some text).toList := given
      rw [question_leaderboard single, effective_of_number number above]
  | usualPlaces given noNumber => rw [question_leaderboard given, effective_of_noNumber noNumber]

/-- A query that is refused leads to none, and the refusal says that the request is ill-formed. -/
theorem question_of_refuses (id : Uuid) (refuses : Refuses query page) :
    ∃ cause, page.question id query = .error cause ∧ cause.status = 400 := by
  cases refuses with
  | repeated known again => exact ⟨_, question_of_again known again, rfl⟩
  | exam given present unknown =>
      refine ⟨.validation "invalid exam", ?_, rfl⟩
      rw [question_subjects given, examOf_of_unknown present unknown]
      rfl
  | noSubject given blank =>
      refine ⟨.validation "subjectId is required", ?_, rfl⟩
      rw [question_topics given, subject_of_blank blank]
      rfl
  | subject given present unknown =>
      refine ⟨.validation "invalid subjectId", ?_, rfl⟩
      rw [question_topics given, subject_of_unknown present unknown]
      rfl

/-- A query gives one value under a name, or none, or several. -/
theorem given_or_again (name : String) (query : List Char) :
    (∃ raw : Option String, Form.valuesOf name query = raw.toList)
      ∨ 1 < (Form.valuesOf name query).length := by
  match Form.valuesOf name query with
  | [] => exact .inl ⟨none, rfl⟩
  | [text] => exact .inl ⟨some text, rfl⟩
  | _ :: _ :: _ => exact .inr (by simp)

/-- A query that is not refused asks a question. -/
theorem asks_or_refuses (page : LearnerPage) (id : Uuid) (query : List Char) :
    Refuses query page ∨ ∃ q, Asks id query page q := by
  have reading (name : String) (known : name ∈ page.names) :
      Refuses query page ∨ ∃ raw : Option String, Form.valuesOf name query = raw.toList := by
    rcases given_or_again name query with given | again
    · exact .inr given
    · exact .inl (.repeated known again)
  cases page with
  | me => exact .inr ⟨_, .me⟩
  | feed => exact .inr ⟨_, .feed⟩
  | subjects =>
      rcases reading "exam" (by decide) with refuses | ⟨raw, given⟩
      · exact .inl refuses
      · cases present : presentText raw with
        | none => exact .inr ⟨_, .anyExam given present⟩
        | some text =>
            cases named : Exam.parse? text with
            | none => exact .inl (.exam given present named)
            | some exam => exact .inr ⟨_, .exam given present named⟩
  | topics =>
      rcases reading "subjectId" (by decide) with refuses | ⟨raw, given⟩
      · exact .inl refuses
      · cases present : presentText raw with
        | none => exact .inl (.noSubject given present)
        | some text =>
            cases named : Uuid.parse? text with
            | none => exact .inl (.subject given present named)
            | some subject => exact .inr ⟨_, .topics given present named⟩
  | leaderboard =>
      rcases reading "limit" (by decide) with refuses | ⟨raw, given⟩
      · exact .inl refuses
      · by_cases number : ∃ text ∈ raw, ∃ limit,
          readUnsigned maxInt64 (trimChars text.toList) = .ok limit ∧ 0 < limit
        · obtain ⟨text, rfl, limit, number, above⟩ := number
          exact .inr ⟨_, .places given number above⟩
        · refine .inr ⟨_, .usualPlaces given fun text mem limit read => ?_⟩
          exact Nat.eq_zero_of_not_pos fun above => number ⟨text, mem, limit, read, above⟩

end LearnerPage

end StudyHall
