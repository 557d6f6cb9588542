import StudyHall.Proofs.Wire.Faithful
import StudyHall.Wire.Console
import StudyHall.Wire.Learner

/-!
# Documents read back

Every document of the service that holds no fraction is read back from its text as it was: the
operators and figures of the console, the claims of a token, and what learners are shown. Texts
may hold any characters and times any representable instant. A number must lie in the range of its
field where the type of the field does not see to it already.

## Main results

* `Operator.faithful`, `UserView.faithful` and the others — a document is written faithfully.
* `documents_read_back` — reading the text of a document gives the document.
-/

namespace StudyHall

open Json Text

/-! ## The console -/

theorem AdminProfile.faithful (p : AdminProfile) : Faithful toJson ofJson? p := by
  have permissions := faithful_texts p.permissions
  refine Faithful.ofRecord (fun _ => rfl) rfl (List.Sublist.refl _) (by simp) ?_ ?_
  · simp [Uuid.toJson, Role.toJson, Exam.toJson, Instant.toJson, permissions.readable]
  · simp [Record.required_eq, List.lookup_cons, permissions.reads]

theorem Operator.faithful (o : Operator) : Faithful toJson ofJson? o := by
  refine Faithful.ofRecord (fun _ => rfl) rfl (List.Sublist.refl _) (by simp) ?_ ?_
  · simp [Uuid.toJson, OperatorStatus.toJson, OperatorRole.toJson, Instant.toJson]
  · simp [Record.required_eq, List.lookup_cons]

namespace Directory

theorem PageMeta.faithful {m : PageMeta} (page : m.page ≤ maxWord64)
    (pageSize : m.pageSize ≤ maxWord64) (total : m.total ≤ maxWord64) :
    Faithful toJson ofJson? m := by
  refine Faithful.ofRecord (fun _ => rfl) rfl (List.Sublist.refl _) (by simp) ?_ ?_
  · simp
  · simp [Record.required_eq, List.lookup_cons, word64?_nat, page, pageSize, total]

theorem Page.faithful {p : Page} (info : Faithful PageMeta.toJson PageMeta.ofJson? p.info) :
    Faithful toJson ofJson? p := by
  have items := Faithful.ofList fun o (_ : o ∈ p.items) => o.faithful
  refine Faithful.ofRecord (fun _ => rfl) rfl (List.Sublist.refl _) (by simp) ?_ ?_
  · simp [items.readable, info.readable]
  · simp [Record.required_eq, List.lookup_cons, items.reads, info.reads]

theorem InviteReceipt.faithful (v : InviteReceipt) : Faithful toJson ofJson? v := by
  refine Faithful.ofRecord (fun _ => rfl) rfl (List.Sublist.refl _) (by simp) ?_ ?_
  · simp [Instant.toJson]
  · simp [Record.required_eq, List.lookup_cons]

end Directory

theorem SeriesPoint.faithful {p : SeriesPoint} (value : isInt64 p.value) :
    Faithful toJson ofJson? p := by
  refine Faithful.ofRecord (fun _ => rfl) rfl (List.Sublist.refl _) (by simp) ?_ ?_
  · simp
  · simp [Record.required_eq, List.lookup_cons, int64?_int value]

theorem TimeSeries.faithful {s : TimeSeries} (values : ∀ p ∈ s.points, isInt64 p.value) :
    Faithful toJson ofJson? s := by
  have points := Faithful.ofList fun p (mem : p ∈ s.points) => SeriesPoint.faithful (values p mem)
  refine Faithful.ofRecord (fun _ => rfl) rfl (List.Sublist.refl _) (by simp) ?_ ?_
  · simp [Metric.toJson, Exam.toJson, Window.toJson, points.readable]
  · simp [Record.required_eq, List.lookup_cons, points.reads]

theorem UpcomingEvent.faithful (e : UpcomingEvent) : Faithful toJson ofJson? e := by
  refine Faithful.ofRecord (fun _ => rfl) rfl (List.Sublist.refl _) (by simp) ?_ ?_
  · simp [Exam.toJson, EventType.toJson, Instant.toJson, EventStatus.toJson]
  · simp [Record.required_eq, List.lookup_cons]

theorem UpcomingEvents.faithful (e : UpcomingEvents) : Faithful toJson ofJson? e := by
  have items := Faithful.ofList fun i (_ : i ∈ e.items) => i.faithful
  refine Faithful.ofRecord (fun _ => rfl) rfl (List.Sublist.refl _) (by simp) ?_ ?_
  · simp [items.readable]
  · simp [Record.required_eq, items.reads]

theorem ReferralSummary.faithful (s : ReferralSummary) : Faithful toJson ofJson? s := by
  refine Faithful.ofRecord (fun _ => rfl) rfl (List.Sublist.refl _) (by simp) ?_ ?_
  · simp
  · simp [Record.required_eq, List.lookup_cons]

/-! ## Tokens and accounts -/

theorem Claims.faithful {c : Claims} (issued : isInt64 c.issuedAt) (expires : isInt64 c.expiresAt) :
    Faithful toJson ofJson? c :=
  ⟨c.readable_toJson, Claims.ofJson?_toJson issued expires⟩

/-- Both ways to be reached may be left out, each in its place. -/
theorem UserView.faithful (u : UserView) : Faithful toJson ofJson? u := by
  refine Faithful.ofRecord (fun _ => rfl) rfl ?_ (by simp) ?_ ?_
  · simp only [List.map_append]
    exact (((List.Sublist.refl _).append (names_field? "email" _)).append
      (names_field? "telegramId" _)).append (List.Sublist.refl _)
  · simp only [List.forall_mem_append, List.forall_mem_cons, forall_mem_field?]
    simp [Uuid.toJson, Exam.toJson, Role.toJson, Instant.toJson]
  · simp [Record.required_eq, Record.optional_eq, List.lookup_cons, List.lookup_append]

theorem AuthResponse.faithful (a : AuthResponse) : Faithful toJson ofJson? a := by
  refine Faithful.ofRecord (fun _ => rfl) rfl (List.Sublist.refl _) (by simp) ?_ ?_
  · simp [a.user.faithful.readable]
  · simp [Record.required_eq, List.lookup_cons, a.user.faithful.reads]

/-- The time of the last visit may be left out at the end. -/
theorem ExamProfileView.faithful (p : ExamProfileView) : Faithful toJson ofJson? p := by
  refine Faithful.ofRecord (fun _ => rfl) rfl ?_ (by simp) ?_ ?_
  · simp only [List.map_append]
    exact (List.Sublist.refl _).append (names_field? "lastLoginAt" _)
  · simp only [List.forall_mem_append, List.forall_mem_cons, forall_mem_field?]
    simp [Exam.toJson, Instant.toJson]
  · simp [Record.required_eq, Record.optional_eq, List.lookup_cons]

theorem MeResponse.faithful (m : MeResponse) : Faithful toJson ofJson? m := by
  refine Faithful.ofRecord (fun _ => rfl) rfl (List.Sublist.refl _) (by simp) ?_ ?_
  · simp [m.user.faithful.readable, m.examProfile.faithful.readable]
  · simp [Record.required_eq, List.lookup_cons, m.user.faithful.reads,
      m.examProfile.faithful.reads]

/-! ## Content -/

theorem SubjectView.faithful (s : SubjectView) : Faithful toJson ofJson? s := by
  refine Faithful.ofRecord (fun _ => rfl) rfl (List.Sublist.refl _) (by simp) ?_ ?_
  · simp [Uuid.toJson, Exam.toJson]
  · simp [Record.required_eq, List.lookup_cons]

theorem TopicView.faithful (t : TopicView) : Faithful toJson ofJson? t := by
  refine Faithful.ofRecord (fun _ => rfl) rfl (List.Sublist.refl _) (by simp) ?_ ?_
  · simp [Uuid.toJson]
  · simp [Record.required_eq, List.lookup_cons]

theorem LeaderboardEntry.faithful (e : LeaderboardEntry) : Faithful toJson ofJson? e := by
  refine Faithful.ofRecord (fun _ => rfl) rfl (List.Sublist.refl _) (by simp) ?_ ?_
  · simp [Uuid.toJson]
  · simp [Record.required_eq, List.lookup_cons]

/-- The picture may be left out in the middle. -/
theorem FeedPost.faithful (p : FeedPost) : Faithful toJson ofJson? p := by
  have tags := faithful_texts p.tags
  refine Faithful.ofRecord (fun _ => rfl) rfl ?_ (by simp) ?_ ?_
  · simp only [List.map_append]
    exact ((List.Sublist.refl _).append (names_field? "imageUrl" _)).append (List.Sublist.refl _)
  · simp only [List.forall_mem_append, List.forall_mem_cons, forall_mem_field?]
    simp [Uuid.toJson, Instant.toJson, tags.readable]
  · simp [Record.required_eq, Record.optional_eq, List.lookup_cons, List.lookup_append, tags.reads]

/-! ## All of them -/

/-- Reading the text of a document gives the document, whatever its texts, identifiers and times
are, as long as its numbers lie in the range of their fields. -/
theorem documents_read_back :
    (∀ p : AdminProfile, (Json.parse? p.toJson.render).bind AdminProfile.ofJson? = some p)
      ∧ (∀ o : Operator, (Json.parse? o.toJson.render).bind Operator.ofJson? = some o)
      ∧ (∀ p : Directory.Page, p.info.page ≤ maxWord64 → p.info.pageSize ≤ maxWord64 →
          p.info.total ≤ maxWord64 →
          (Json.parse? p.toJson.render).bind Directory.Page.ofJson? = some p)
      ∧ (∀ v : Directory.InviteReceipt,
          (Json.parse? v.toJson.render).bind Directory.InviteReceipt.ofJson? = some v)
      ∧ (∀ s : TimeSeries, (∀ p ∈ s.points, isInt64 p.value) →
          (Json.parse? s.toJson.render).bind TimeSeries.ofJson? = some s)
      ∧ (∀ e : UpcomingEvents, (Json.parse? e.toJson.render).bind UpcomingEvents.ofJson? = some e)
      ∧ (∀ s : ReferralSummary, (Json.parse? s.toJson.render).bind ReferralSummary.ofJson? = some s)
      ∧ (∀ c : Claims, isInt64 c.issuedAt → isInt64 c.expiresAt →
          (Json.parse? c.toJson.render).bind Claims.ofJson? = some c)
      ∧ (∀ u : UserView, (Json.parse? u.toJson.render).bind UserView.ofJson? = some u)
      ∧ (∀ a : AuthResponse, (Json.parse? a.toJson.render).bind AuthResponse.ofJson? = some a)
      ∧ (∀ p : ExamProfileView, (Json.parse? p.toJson.render).bind ExamProfileView.ofJson? = some p)
      ∧ (∀ m : MeResponse, (Json.parse? m.toJson.render).bind MeResponse.ofJson? = some m)
      ∧ (∀ s : SubjectView, (Json.parse? s.toJson.render).bind SubjectView.ofJson? = some s)
      ∧ (∀ t : TopicView, (Json.parse? t.toJson.render).bind TopicView.ofJson? = some t)
      ∧ (∀ e : LeaderboardEntry,
          (Json.parse? e.toJson.render).bind LeaderboardEntry.ofJson? = some e)
      ∧ (∀ p : FeedPost, (Json.parse? p.toJson.render).bind FeedPost.ofJson? = some p) := by
  refine ⟨?adminProfile, ?operator, ?page, ?inviteReceipt, ?timeSeries, ?upcomingEvents,
    ?referralSummary, ?claims, ?userView, ?authResponse, ?examProfileView, ?meResponse,
    ?subjectView, ?topicView, ?leaderboardEntry, ?feedPost⟩
  case adminProfile => exact fun p => p.faithful.parse?_render
  case operator => exact fun o => o.faithful.parse?_render
  case page =>
    intro p page pageSize total
    have info := Directory.PageMeta.faithful page pageSize total
    exact (Directory.Page.faithful info).parse?_render
  case inviteReceipt => exact fun v => v.faithful.parse?_render
  case timeSeries => exact fun s values => (TimeSeries.faithful values).parse?_render
  case upcomingEvents => exact fun e => e.faithful.parse?_render
  case referralSummary => exact fun s => s.faithful.parse?_render
  case claims => exact fun c issued expires => (Claims.faithful issued expires).parse?_render
  case userView => exact fun u => u.faithful.parse?_render
  case authResponse => exact fun a => a.faithful.parse?_render
  case examProfileView => exact fun p => p.faithful.parse?_render
  case meResponse => exact fun m => m.faithful.parse?_render
  case subjectView => exact fun s => s.faithful.parse?_render
  case topicView => exact fun t => t.faithful.parse?_render
  case leaderboardEntry => exact fun e => e.faithful.parse?_render
  case feedPost => exact fun p => p.faithful.parse?_render

/-- A series with values at both ends of their range and a text of which most is escaped. -/
def sampleSeries : TimeSeries :=
  ⟨.questionsAnswered, .neetUg, .today,
    [⟨"\"\\/\x08\x0c\n\r\t\x01é𝄞", -9223372036854775808⟩, ⟨"", 9223372036854775807⟩]⟩

/-- A page of one operator, from the first representable second to a second that was inserted into
the last representable minute. -/
def samplePage : Directory.Page :=
  ⟨[ ⟨.ofNat 1, "Ada", "", "ada", "ada@x", "+1", .invited, .cashier,
      ⟨Instant.firstSecond, 1000000, by decide⟩,
      ⟨Instant.lastSecond, 1999999999, by decide⟩⟩ ],
    ⟨0, 18446744073709551615, 1⟩⟩

theorem documents_read_back_sample :
    let claims : Claims := ⟨"7", .superAdmin, none, "", -9223372036854775808, 0⟩
    (Json.parse? samplePage.toJson.render).bind Directory.Page.ofJson? = some samplePage
      ∧ (Json.parse? sampleSeries.toJson.render).bind TimeSeries.ofJson? = some sampleSeries
      ∧ (Json.parse? claims.toJson.render).bind Claims.ofJson? = some claims := by
  intro claims
  obtain ⟨-, -, page, -, series, -, -, token, -⟩ := documents_read_back
  have values : ∀ p ∈ sampleSeries.points, isInt64 p.value := by
    unfold isInt64
    decide
  refine ⟨page samplePage ?_ ?_ ?_, series sampleSeries values, token claims ?_ ?_⟩
  · decide
  · decide
  · decide
  · unfold isInt64
    decide
  · unfold isInt64
    decide

end StudyHall
