import StudyHall.Proofs.Metrics.Traffic
import StudyHall.Proofs.Service.Layers
import StudyHall.Proofs.Service.RequestRuns

/-!
# What a service tells its recorder

A service that collects figures tells its recorder of each request that it answers from start to
end, with the path and the method that were asked for and the status of the response as it is sent.
So a service that answers one request after the other leaves the page with the figures as it would
be, had the requests been answered side by side.

## Main results

* `Service.respond_tells` — what one response leaves in the recorder.
* `Service.lines_serve` — the page with the figures after many responses.
-/

namespace StudyHall.Service

open Metrics

variable (s : Service)

/-! ## Endpoints -/

theorem event?_asides (a : DirectoryAction) (answer : Directory.Answer) :
    ∃ as : List Aside, (a.event? answer).toList = as.map Aside.event := by
  unfold DirectoryAction.event?
  split
  · exact ⟨[.mutation "create" 1], rfl⟩
  · exact ⟨[.mutation "update" 1], rfl⟩
  · exact ⟨[.mutation "delete" 1], rfl⟩
  · next n => exact ⟨[.mutation "bulk_status" n], rfl⟩
  · next n => exact ⟨[.mutation "bulk_delete" n], rfl⟩
  · exact ⟨[], rfl⟩

/-- What an endpoint counts is counted between start and end. -/
theorem answer_asides (e : Endpoint) (c : Call) (d : Directory) :
    ∃ as : List Aside, (s.answer e c d).events = as.map Aside.event := by
  have nothing : ∃ as : List Aside, ([] : List Event) = as.map Aside.event := ⟨[], rfl⟩
  cases e with
  | health => exact nothing
  | ready => exact nothing
  | learner page =>
      simp only [answer, learnerPage]
      split
      · exact nothing
      · exact nothing
  | telegramSignIn =>
      simp only [answer, telegramSignIn]
      split
      · exact nothing
      · split
        · exact ⟨[.signIn "telegram" true], rfl⟩
        · exact nothing
  | adminSignIn =>
      simp only [answer, adminSignIn]
      split
      · exact nothing
      · next credentials _ => exact ⟨[.signIn "admin" (s.account.recognizes credentials)], rfl⟩
  | directory a =>
      simp only [answer, directoryAction]
      split
      · exact nothing
      · split
        · exact nothing
        · next op _ => exact event?_asides a (d.perform c.now op).1
  | report report =>
      simp only [answer, reportPage]
      split
      · exact nothing
      · exact nothing

theorem routeVisit_asides {c : Call} {d : Directory} {v : Visit}
    (visited : s.routeVisit c d = some v) : ∃ as : List Aside, v.events = as.map Aside.event := by
  cases s.visits_of_routeVisit visited with
  | preflight | nowhere | turnedAway | wrongMethod => exact ⟨[], rfl⟩
  | endpoint _ _ _ reached =>
      rw [endpointVisit_eq] at reached
      obtain ⟨r, -, rfl⟩ := Option.map_eq_some_iff.mp reached
      exact s.answer_asides _ c d

/-! ## Responses -/

/-- A response leaves in the recorder what a request tells from start to end. -/
theorem respond_tells {c : Call} {st st' : State} {r : Response} {statements : List Statement}
    (collected : s.reportsMetrics = true) (answered : s.respond c st = some (r, statements, st')) :
    ∃ x : Handling, x.method = c.request.method ∧ x.path = c.request.target.path
      ∧ x.status = r.status ∧ st'.recorder = st.recorder.recordAll x.events := by
  obtain ⟨v, visited, rfl, -, rfl⟩ := s.visit_of_respond answered
  have asides : ∃ as : List Aside, v.events = as.map Aside.event := by
    unfold visit at visited
    split at visited
    · cases visited
      exact ⟨[], rfl⟩
    · exact s.routeVisit_asides visited
  obtain ⟨as, told⟩ := asides
  refine ⟨⟨c.request.method, c.request.target.path, v.response.status, as⟩, rfl, rfl,
    (status_finish c v.response).symm, ?_⟩
  simp only [recording, collected, if_true, told]
  rfl

/-- What a request and what is told of it have in common. -/
def Tells (c : Call) (x : Handling) : Prop :=
  x.method = c.request.method ∧ x.path = c.request.target.path

/-- Whether each of some requests, one after the other, has a response. -/
def AllAnswered (st : State) : List Call → Prop
  | [] => True
  | c :: calls => (s.respond c st).isSome ∧ AllAnswered (s.after st c) calls

/-- Requests that are all answered leave what they tell from start to end, one after the other. -/
theorem serve_tells (collected : s.reportsMetrics = true) {st : State} {calls : List Call}
    (answered : s.AllAnswered st calls) :
    ∃ xs : List Handling, List.Forall₂ Tells calls xs
      ∧ (s.serve st calls).recorder = st.recorder.recordAll (xs.flatMap Handling.events) := by
  induction calls generalizing st with
  | nil => exact ⟨[], .nil, rfl⟩
  | cons c calls ih =>
      obtain ⟨first, rest⟩ := answered
      obtain ⟨⟨r, statements, st'⟩, responded⟩ := Option.isSome_iff_exists.mp first
      obtain ⟨x, method, path, -, recorded⟩ := s.respond_tells collected responded
      have next : s.after st c = st' := by
        unfold after
        rw [responded]
      rw [next] at rest
      obtain ⟨xs, told, recorded'⟩ := ih rest
      refine ⟨x :: xs, .cons ⟨method, path⟩ told, ?_⟩
      show (s.serve (s.after st c) calls).recorder = _
      rw [next, recorded', recorded, List.flatMap_cons]
      simp only [Recorder.recordAll, List.foldl_append]

/-- Whether requests are answered one after the other or side by side, the page with the figures is
the same in the end. -/
theorem lines_serve (collected : s.reportsMetrics = true) {d : Directory} {calls : List Call}
    (answered : s.AllAnswered ⟨d, Recorder.empty⟩ calls) :
    ∃ xs : List Handling, List.Forall₂ Tells calls xs
      ∧ ∀ schedule, ((Traffic.waiting xs).run schedule).Finished →
        ((Traffic.waiting xs).run schedule).recorder.lines
          = (s.serve ⟨d, Recorder.empty⟩ calls).recorder.lines := by
  obtain ⟨xs, told, recorded⟩ := s.serve_tells collected answered
  refine ⟨xs, told, fun schedule finished => ?_⟩
  obtain ⟨es, recorded', reordered⟩ := Traffic.told_finished xs schedule finished
  rw [recorded, recorded']
  exact (Recorder.lines_perm Recorder.distinct_empty reordered).symm

end StudyHall.Service
