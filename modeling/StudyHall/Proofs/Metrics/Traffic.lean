import StudyHall.Proofs.Metrics.Recorder
import StudyHall.Proofs.Text.Numeral

/-!
# The balance of requests

Requests are answered side by side, and the recorder is told of each in steps: first that it has
started, then what is counted while it is answered, at last that it is finished, with the status of
its answer. The steps of one request come in this order; those of several requests come in any.

What carries the argument is that at every moment the recorder has been told what the requests on
their way say has been told of them, in some order, and that a recorder adds up. So a figure is a
sum over the requests, in which each counts by itself: the number of those under way gets one when
a request starts and loses it when it is finished, and the number of those that were answered gets
one at the end.

## Main results

* `Traffic.told_run` — what the recorder has been told after a run, whatever the schedule.
* `figures_balance` — the number of requests under way is right at each moment; when all are
  finished it is zero, the requests with their durations are counted by their labels, and nothing
  depends on the schedule.
-/

namespace StudyHall.Metrics

open Text

/-! ## Requests -/

/-- What is counted while a request is answered. -/
inductive Aside where
  | signIn (method : String) (success : Bool)
  | mutation (operation : String) (affected : Nat)
  deriving DecidableEq, Repr

/-- What the recorder is told of it. -/
def Aside.event : Aside → Event
  | .signIn method success => .signIn method success
  | .mutation operation affected => .mutation operation affected

/-- A request with the status of its answer and what is counted while it is answered. -/
structure Handling where
  method : String
  path : List Char
  status : Nat
  asides : List Aside := []
  deriving DecidableEq

namespace Handling

variable (x : Handling)

/-- The label of the path. -/
def label : String := PathLabel.ofPath x.path

/-- What the recorder is told after the start. -/
def rest : List Event :=
  x.asides.map Aside.event ++ [.finished x.method x.label x.status]

/-- What the recorder is told of a request, from start to end. -/
def events : List Event :=
  .started x.method x.label :: x.rest

/-- Whether a request has a method and a label. -/
def At (method path : String) : Prop :=
  x.method = method ∧ x.label = path

/-- Whether a request has a method, a label and a status. -/
def Ends (method path : String) (status : Nat) : Prop :=
  x.At method path ∧ x.status = status

instance (method path : String) : Decidable (x.At method path) :=
  inferInstanceAs (Decidable (_ ∧ _))

instance (method path : String) (status : Nat) : Decidable (x.Ends method path status) :=
  inferInstanceAs (Decidable (_ ∧ _))

end Handling

/-! ## Requests on their way -/

/-- A request with the number of events that were told of it. -/
structure Progress where
  handling : Handling
  told : Nat
  deriving DecidableEq

namespace Progress

variable (p : Progress)

/-- What was told of a request. -/
def past : List Event := p.handling.events.take p.told

/-- What is told of a request next. -/
def next? : Option Event := p.handling.events[p.told]?

/-- A request after one event more. -/
def forward : Progress := ⟨p.handling, p.told + 1⟩

/-- Whether a request has started. -/
def Started : Prop := 0 < p.told

/-- Whether there is nothing left to tell of a request. -/
def Finished : Prop := p.handling.events.length ≤ p.told

instance : Decidable p.Started := inferInstanceAs (Decidable (_ < _))

instance : Decidable p.Finished := inferInstanceAs (Decidable (_ ≤ _))

theorem past_forward {e : Event} (next : p.next? = some e) : p.forward.past = p.past ++ [e] :=
  List.take_add_one.trans (congrArg (p.past ++ ·) (congrArg Option.toList next))

end Progress

/-- Requests on their way, and the recorder that is told of them. -/
structure Traffic where
  requests : List Progress
  recorder : Recorder
  deriving DecidableEq

namespace Traffic

/-- Requests of which none has started. -/
def waiting (xs : List Handling) : Traffic :=
  ⟨xs.map fun x => ⟨x, 0⟩, Recorder.empty⟩

/-- One request takes its next step, if there is such a request and it has a step left. -/
def advance (t : Traffic) (i : Nat) : Traffic :=
  match t.requests[i]? with
  | none => t
  | some p =>
      match p.next? with
      | none => t
      | some e => ⟨t.requests.set i p.forward, t.recorder.record e⟩

/-- Requests take steps in the order of a schedule, which names the request of each step. -/
def run (t : Traffic) (schedule : List Nat) : Traffic :=
  schedule.foldl advance t

/-- What was told of all requests. -/
def past (t : Traffic) : List Event :=
  t.requests.flatMap Progress.past

/-- Whether all requests are finished. -/
def Finished (t : Traffic) : Prop :=
  ∀ p ∈ t.requests, p.Finished

instance (t : Traffic) : Decidable t.Finished := inferInstanceAs (Decidable (∀ p ∈ _, _))

/-- The number of requests under way with a method and a label. -/
def underWay (t : Traffic) (method path : String) : Nat :=
  t.requests.countP fun p => p.handling.At method path ∧ p.Started ∧ ¬p.Finished

/-- The number of requests that were answered with a method, a label and a status. -/
def answered (t : Traffic) (method path : String) (status : Nat) : Nat :=
  t.requests.countP fun p => p.handling.Ends method path status ∧ p.Finished

/-! ## One step -/

theorem flatMap_set_perm {l : List Progress} {i : Nat} {p : Progress} {e : Event}
    (found : l[i]? = some p) (next : p.next? = some e) :
    ((l.set i p.forward).flatMap Progress.past).Perm (l.flatMap Progress.past ++ [e]) := by
  induction l generalizing i with
  | nil => cases found
  | cons q rest ih =>
      cases i with
      | zero =>
          have here : q = p := Option.some.inj found
          subst here
          have moved : (q.past ++ [e] ++ rest.flatMap Progress.past).Perm
              (q.past ++ rest.flatMap Progress.past ++ [e]) := by
            rw [List.append_assoc, List.append_assoc]
            exact List.perm_append_comm.append_left q.past
          rw [List.set_cons_zero, List.flatMap_cons, List.flatMap_cons, q.past_forward next]
          exact moved
      | succ i =>
          have later : rest[i]? = some p := found
          rw [List.set_cons_succ, List.flatMap_cons, List.flatMap_cons, List.append_assoc]
          exact (ih later).append_left q.past

/-- A step tells the recorder what it adds to what was told of the requests. -/
theorem told_advance (t : Traffic) (i : Nat) :
    ∃ es, (t.advance i).recorder = t.recorder.recordAll es
      ∧ (t.advance i).past.Perm (t.past ++ es) := by
  unfold advance
  split
  · exact ⟨[], rfl, by rw [List.append_nil]⟩
  · next p found =>
      split
      · exact ⟨[], rfl, by rw [List.append_nil]⟩
      · next e next => exact ⟨[e], rfl, flatMap_set_perm found next⟩

theorem map_set_handling {l : List Progress} {i : Nat} {p : Progress} (found : l[i]? = some p) :
    (l.set i p.forward).map Progress.handling = l.map Progress.handling := by
  have there : (l.map Progress.handling)[i]? = some p.handling := by
    rw [List.getElem?_map, found, Option.map_some]
  obtain ⟨inside, same⟩ := List.getElem?_eq_some_iff.mp there
  have kept : p.forward.handling = (l.map Progress.handling)[i] := same.symm
  rw [List.map_set, kept]
  exact List.set_getElem_self inside

/-- A step is one of a request that stays what it is. -/
theorem handlings_advance (t : Traffic) (i : Nat) :
    (t.advance i).requests.map Progress.handling = t.requests.map Progress.handling := by
  unfold advance
  split
  · rfl
  · next p found =>
      split
      · rfl
      · exact map_set_handling found

/-! ## Runs -/

/-- However the steps are ordered, the recorder was told what was told of the requests. -/
theorem told_run (t : Traffic) (schedule : List Nat) :
    ∃ es, (t.run schedule).recorder = t.recorder.recordAll es
      ∧ (t.run schedule).past.Perm (t.past ++ es) := by
  induction schedule generalizing t with
  | nil => exact ⟨[], rfl, by rw [List.append_nil]; exact List.Perm.refl _⟩
  | cons i schedule ih =>
      obtain ⟨first, recorded, told⟩ := t.told_advance i
      obtain ⟨later, recorded', told'⟩ := ih (t.advance i)
      refine ⟨first ++ later, ?_, ?_⟩
      · show ((t.advance i).run schedule).recorder = _
        rw [recorded', recorded]
        simp only [Recorder.recordAll, List.foldl_append]
      · show ((t.advance i).run schedule).past.Perm _
        rw [← List.append_assoc]
        exact told'.trans (told.append_right later)

/-- A run keeps the requests. -/
theorem handlings_run (t : Traffic) (schedule : List Nat) :
    (t.run schedule).requests.map Progress.handling = t.requests.map Progress.handling := by
  induction schedule generalizing t with
  | nil => rfl
  | cons i schedule ih => exact (ih (t.advance i)).trans (t.handlings_advance i)

theorem past_waiting (xs : List Handling) : (waiting xs).past = [] := by
  refine List.flatMap_eq_nil_iff.mpr fun p mem => ?_
  obtain ⟨x, -, rfl⟩ := List.mem_map.mp mem
  rfl

/-! ## Figures as sums over requests -/

variable (xs : List Handling) (schedule : List Nat)

/-- A sum over what was told of all requests is one of sums over what was told of each. -/
theorem sum_past (t : Traffic) (amount : Event → Int) :
    (t.past.map amount).sum = (t.requests.map fun p => (p.past.map amount).sum).sum := by
  unfold past
  induction t.requests with
  | nil => rfl
  | cons p rest ih =>
      rw [List.flatMap_cons, List.map_append, List.sum_append, ih, List.map_cons, List.sum_cons]

theorem value_run (s : Series) :
    ((waiting xs).run schedule).recorder.value s
      = (((waiting xs).run schedule).requests.map fun p =>
          (p.past.map (Event.amount (only s))).sum).sum := by
  obtain ⟨es, recorded, told⟩ := (waiting xs).told_run schedule
  rw [past_waiting, List.nil_append] at told
  have start : (waiting xs).recorder = Recorder.empty := rfl
  rw [recorded, start, Recorder.value_recordAll, Recorder.value_empty, Int.zero_add, ← sum_past]
  exact (told.map _).sum_eq.symm

theorem sumOf_run (kind : Series → Bool) :
    ((waiting xs).run schedule).recorder.sumOf kind
      = (((waiting xs).run schedule).requests.map fun p =>
          (p.past.map (Event.amount kind)).sum).sum := by
  obtain ⟨es, recorded, told⟩ := (waiting xs).told_run schedule
  rw [past_waiting, List.nil_append] at told
  have start : (waiting xs).recorder = Recorder.empty := rfl
  rw [recorded, start, Recorder.sumOf_recordAll, Recorder.sumOf_empty, Int.zero_add, ← sum_past]
  exact (told.map _).sum_eq.symm

/-- Ones and nothing add up to the number of the ones. -/
theorem sum_eq_countP {α : Type} {P : α → Prop} [DecidablePred P] {f : α → Int}
    (ones : ∀ a, f a = if P a then 1 else 0) (l : List α) : (l.map f).sum = l.countP P := by
  induction l with
  | nil => rfl
  | cons a rest ih =>
      rw [List.map_cons, List.sum_cons, ih, ones]
      by_cases counts : P a
      · simp [counts]
        omega
      · simp [counts]

end Traffic

/-! ## What one request adds -/

/-- A kind of series to which nothing is added between start and end. -/
structure OfRequests (kind : Series → Bool) : Prop where
  signIn : ∀ method success, kind (authEvents method success) = false
  mutation : ∀ operation, kind (mutationsTotal operation) = false

section
variable {kind : Series → Bool}

theorem OfRequests.amount_aside (h : OfRequests kind) (a : Aside) : a.event.amount kind = 0 := by
  cases a with
  | signIn method success =>
      simp [Aside.event, Event.amount, Event.additions, given, h.signIn]
  | mutation operation affected =>
      simp [Aside.event, Event.amount, Event.additions, given, h.mutation]

theorem OfRequests.sum_asides (h : OfRequests kind) (as : List Aside) :
    ((as.map Aside.event).map (Event.amount kind)).sum = 0 := by
  induction as with
  | nil => rfl
  | cons a rest ih =>
      rw [List.map_cons, List.map_cons, List.sum_cons, h.amount_aside, ih, Int.zero_add]

/-- A request counts when it starts and when it ends. -/
theorem Progress.sum_past (h : OfRequests kind) (p : Progress) :
    (p.past.map (Event.amount kind)).sum
      = (if p.Started then
          (Event.started p.handling.method p.handling.label).amount kind else 0)
        + if p.Finished then
            (Event.finished p.handling.method p.handling.label p.handling.status).amount kind
          else 0 := by
  obtain ⟨x, told⟩ := p
  cases told with
  | zero =>
      have unfinished : ¬(Progress.mk x 0).Finished := by simp [Progress.Finished, Handling.events]
      have unstarted : ¬(Progress.mk x 0).Started := Nat.lt_irrefl 0
      rw [if_neg unstarted, if_neg unfinished]
      rfl
  | succ n =>
      have started : (Progress.mk x (n + 1)).Started := Nat.succ_pos n
      have past : (Progress.mk x (n + 1)).past
          = .started x.method x.label
            :: ((x.asides.map Aside.event).take n
              ++ [Event.finished x.method x.label x.status].take (n - x.asides.length)) := by
        show Event.started x.method x.label :: x.rest.take n = _
        rw [Handling.rest, List.take_append, List.length_map]
      have asides : (((x.asides.map Aside.event).take n).map (Event.amount kind)).sum = 0 := by
        rw [← List.map_take]
        exact h.sum_asides _
      have finished : (Progress.mk x (n + 1)).Finished ↔ x.asides.length < n := by
        simp only [Progress.Finished, Handling.events, Handling.rest, List.length_cons,
          List.length_append, List.length_map, List.length_nil]
        omega
      rw [past, if_pos started, List.map_cons, List.sum_cons, List.map_append, List.sum_append,
        asides, Int.zero_add]
      by_cases done : x.asides.length < n
      · have whole : 0 < n - x.asides.length := by omega
        obtain ⟨k, more⟩ := Nat.exists_eq_add_one_of_ne_zero (Nat.ne_of_gt whole)
        rw [if_pos (finished.mpr done), more]
        simp
      · have nothing : n - x.asides.length = 0 := by omega
        have unfinished : ¬(Progress.mk x (n + 1)).Finished := fun f => done (finished.mp f)
        rw [if_neg unfinished, nothing]
        rfl

end

/-! ## The four figures -/

/-- The name of the number of answered requests. -/
def requestsName : String := "http_requests_total"

section
variable (method path : String) (status : Nat)

theorem ofRequests_inFlight : OfRequests (only (inFlight method path)) where
  signIn _ _ := by simp [only, authEvents, inFlight]
  mutation _ := by simp [only, mutationsTotal, inFlight]

theorem ofRequests_requestsTotal : OfRequests (only (requestsTotal method path status)) where
  signIn _ _ := by simp [only, authEvents, requestsTotal]
  mutation _ := by simp [only, mutationsTotal, requestsTotal]

theorem ofRequests_durationCount : OfRequests (only (durationCount method path status)) where
  signIn _ _ := by simp [only, authEvents, durationCount, durationName]
  mutation _ := by simp [only, mutationsTotal, durationCount, durationName]

theorem ofRequests_requestsName : OfRequests (named requestsName) where
  signIn _ _ := by simp [named, authEvents, requestsName]
  mutation _ := by simp [named, mutationsTotal, requestsName]

theorem amount_started (kind : Series → Bool) :
    (Event.started method path).amount kind = if kind (inFlight method path) then 1 else 0 := by
  simp [Event.amount, Event.additions, given]

theorem amount_finished (kind : Series → Bool) :
    (Event.finished method path status).amount kind
      = (if kind (inFlight method path) then -1 else 0)
        + ((if kind (requestsTotal method path status) then 1 else 0)
          + if kind (durationCount method path status) then 1 else 0) := by
  simp [Event.amount, Event.additions, given]

/-! ### Which kind has which series -/

theorem only_inFlight (method' path' : String) :
    only (inFlight method path) (inFlight method' path') = true
      ↔ method' = method ∧ path' = path := by
  simp [only, inFlight]

theorem only_requestsTotal (method' path' : String) (status' : Nat) :
    only (requestsTotal method path status) (requestsTotal method' path' status') = true
      ↔ (method' = method ∧ path' = path) ∧ status' = status := by
  simp [only, requestsTotal, requestLabels, and_assoc]

theorem only_durationCount (method' path' : String) (status' : Nat) :
    only (durationCount method path status) (durationCount method' path' status') = true
      ↔ (method' = method ∧ path' = path) ∧ status' = status := by
  simp [only, durationCount, requestLabels, and_assoc]

theorem only_of_names {s t : Series} (different : t.name ≠ s.name) : only s t = false :=
  decide_eq_false fun same => different (congrArg Series.name same)

namespace Progress

variable (p : Progress)

theorem Finished.started {p : Progress} (done : p.Finished) : p.Started :=
  Nat.lt_of_lt_of_le (Nat.succ_pos _) done

/-- A request is one of those under way from its start to its end. -/
theorem sum_inFlight :
    (p.past.map (Event.amount (only (inFlight method path)))).sum
      = if p.handling.At method path ∧ p.Started ∧ ¬p.Finished then 1 else 0 := by
  have total : only (inFlight method path)
      (requestsTotal p.handling.method p.handling.label p.handling.status) = false :=
    only_of_names (by simp [inFlight, requestsTotal])
  have duration : only (inFlight method path)
      (durationCount p.handling.method p.handling.label p.handling.status) = false :=
    only_of_names (by simp [inFlight, durationCount, durationName])
  rw [sum_past (ofRequests_inFlight method path), amount_started, amount_finished, total, duration]
  simp only [only_inFlight, Handling.At, Bool.false_eq_true, if_false]
  by_cases done : p.Finished
  · have started := done.started
    by_cases here : p.handling.method = method ∧ p.handling.label = path
    · simp [here, done, started]
    · simp [here, done, started]
  · by_cases here : p.handling.method = method ∧ p.handling.label = path
    · simp [here, done]
    · simp [here, done]

/-- What is given to a kind at the end only counts the requests that have ended. -/
theorem sum_of_end {kind : Series → Bool} {P : Prop} [Decidable P] (h : OfRequests kind)
    (gauge : kind (inFlight p.handling.method p.handling.label) = false)
    (once :
      ((if kind (requestsTotal p.handling.method p.handling.label p.handling.status) then 1 else 0)
        + if kind (durationCount p.handling.method p.handling.label p.handling.status) then 1
          else 0 : Int)
        = if P then 1 else 0) :
    (p.past.map (Event.amount kind)).sum = if P ∧ p.Finished then 1 else 0 := by
  rw [sum_past h, amount_started, amount_finished, gauge, once]
  by_cases done : p.Finished
  · simp [done]
  · simp [done]

theorem sum_requestsTotal :
    (p.past.map (Event.amount (only (requestsTotal method path status)))).sum
      = if p.handling.Ends method path status ∧ p.Finished then 1 else 0 := by
  have gauge : only (requestsTotal method path status)
      (inFlight p.handling.method p.handling.label) = false :=
    only_of_names (by simp [inFlight, requestsTotal])
  have duration : only (requestsTotal method path status)
      (durationCount p.handling.method p.handling.label p.handling.status) = false :=
    only_of_names (by simp [requestsTotal, durationCount, durationName])
  refine p.sum_of_end (ofRequests_requestsTotal method path status) gauge ?_
  rw [duration, if_neg Bool.false_ne_true, Int.add_zero]
  exact if_congr (only_requestsTotal ..) rfl rfl

theorem sum_durationCount :
    (p.past.map (Event.amount (only (durationCount method path status)))).sum
      = if p.handling.Ends method path status ∧ p.Finished then 1 else 0 := by
  have gauge : only (durationCount method path status)
      (inFlight p.handling.method p.handling.label) = false :=
    only_of_names (by simp [inFlight, durationCount, durationName])
  have total : only (durationCount method path status)
      (requestsTotal p.handling.method p.handling.label p.handling.status) = false :=
    only_of_names (by simp [requestsTotal, durationCount, durationName])
  refine p.sum_of_end (ofRequests_durationCount method path status) gauge ?_
  rw [total, if_neg Bool.false_ne_true, Int.zero_add]
  exact if_congr (only_durationCount ..) rfl rfl

theorem sum_requestsName :
    (p.past.map (Event.amount (named requestsName))).sum = if p.Finished then 1 else 0 := by
  have counted : (p.past.map (Event.amount (named requestsName))).sum
      = if True ∧ p.Finished then 1 else 0 := by
    refine p.sum_of_end ofRequests_requestsName ?_ ?_
    · simp [named, requestsName, inFlight]
    · simp [named, requestsName, requestsTotal, durationCount, durationName]
  simpa only [true_and] using counted

end Progress

end

/-! ## The balance -/

namespace Traffic

variable (xs : List Handling) (schedule : List Nat)

/-- At each moment the requests under way are those that have started and are not finished. -/
theorem value_inFlight (method path : String) :
    ((waiting xs).run schedule).recorder.value (inFlight method path)
      = ((waiting xs).run schedule).underWay method path := by
  rw [value_run]
  exact sum_eq_countP (Progress.sum_inFlight method path) _

theorem value_requestsTotal (method path : String) (status : Nat) :
    ((waiting xs).run schedule).recorder.value (requestsTotal method path status)
      = ((waiting xs).run schedule).answered method path status := by
  rw [value_run]
  exact sum_eq_countP (Progress.sum_requestsTotal method path status) _

theorem value_durationCount (method path : String) (status : Nat) :
    ((waiting xs).run schedule).recorder.value (durationCount method path status)
      = ((waiting xs).run schedule).answered method path status := by
  rw [value_run]
  exact sum_eq_countP (Progress.sum_durationCount method path status) _

theorem sumOf_requestsName :
    ((waiting xs).run schedule).recorder.sumOf (named requestsName)
      = ((waiting xs).run schedule).requests.countP (Progress.Finished ·) := by
  rw [sumOf_run]
  exact sum_eq_countP Progress.sum_requestsName _

/-! ### When all are finished -/

variable {t : Traffic}

theorem Finished.underWay (done : t.Finished) (method path : String) :
    t.underWay method path = 0 := by
  refine List.countP_eq_zero.mpr fun p mem under => ?_
  obtain ⟨-, -, unfinished⟩ := of_decide_eq_true under
  exact unfinished (done p mem)

theorem Finished.answered (done : t.Finished) (method path : String) (status : Nat) :
    t.answered method path status
      = (t.requests.map Progress.handling).countP (·.Ends method path status) := by
  rw [List.countP_map]
  refine List.countP_congr fun p mem => ?_
  simp [done p mem]

theorem Finished.count (done : t.Finished) :
    t.requests.countP (Progress.Finished ·) = (t.requests.map Progress.handling).length := by
  rw [List.length_map]
  exact List.countP_eq_length.mpr fun p mem => decide_eq_true (done p mem)

theorem handlings_waiting : (waiting xs).requests.map Progress.handling = xs := by
  simp [waiting, Function.comp_def]

/-- A finished request was told of from start to end. -/
theorem Finished.past (done : t.Finished) :
    t.past = (t.requests.map Progress.handling).flatMap Handling.events := by
  rw [List.flatMap_map]
  exact List.flatMap_congr fun p mem => List.take_of_length_le (done p mem)

/-- Schedules that let all requests finish tell the recorder the same, in some order. -/
theorem told_finished (done : ((waiting xs).run schedule).Finished) :
    ∃ es, ((waiting xs).run schedule).recorder = Recorder.empty.recordAll es
      ∧ (xs.flatMap Handling.events).Perm es := by
  obtain ⟨es, recorded, told⟩ := (waiting xs).told_run schedule
  rw [done.past, handlings_run, handlings_waiting, past_waiting, List.nil_append] at told
  exact ⟨es, recorded, told⟩

end Traffic

open Traffic in
/-- The figures balance, whatever the order in which the steps of the requests are taken. -/
theorem figures_balance (xs : List Handling) (schedule : List Nat) :
    let t := (waiting xs).run schedule
    t.requests.map Progress.handling = xs
    ∧ (∀ method path, t.recorder.value (inFlight method path) = t.underWay method path)
    ∧ (t.Finished →
      (∀ method path, t.recorder.value (inFlight method path) = 0)
      ∧ (∀ method path status,
        t.recorder.value (requestsTotal method path status)
            = xs.countP (·.Ends method path status)
          ∧ t.recorder.value (durationCount method path status)
            = xs.countP (·.Ends method path status))
      ∧ t.recorder.sumOf (named requestsName) = xs.length
      ∧ ∀ other, ((waiting xs).run other).Finished →
        (∀ s, ((waiting xs).run other).recorder.value s = t.recorder.value s)
        ∧ ((waiting xs).run other).recorder.lines = t.recorder.lines) := by
  intro t
  have kept : t.requests.map Progress.handling = xs :=
    ((waiting xs).handlings_run schedule).trans (handlings_waiting xs)
  refine ⟨kept, value_inFlight xs schedule, fun done => ⟨?_, ?_, ?_, ?_⟩⟩
  · intro method path
    rw [value_inFlight xs schedule, done.underWay]
    rfl
  · intro method path status
    have count : t.answered method path status = xs.countP (·.Ends method path status) := by
      rw [done.answered, kept]
    rw [value_requestsTotal xs schedule, value_durationCount xs schedule, count]
    exact ⟨rfl, rfl⟩
  · rw [sumOf_requestsName xs schedule, done.count, kept]
  · intro other done'
    obtain ⟨es, recorded, told⟩ := told_finished xs schedule done
    obtain ⟨es', recorded', told'⟩ := told_finished xs other done'
    have reordered : es'.Perm es := told'.symm.trans told
    show (∀ s, _ = ((waiting xs).run schedule).recorder.value s)
      ∧ _ = ((waiting xs).run schedule).recorder.lines
    rw [recorded, recorded']
    exact ⟨Recorder.value_perm Recorder.empty reordered,
      Recorder.lines_perm Recorder.distinct_empty reordered⟩

/-- Two visits to operators with different numbers, which have one label, and a sign-in. -/
def threeRequests : List Handling :=
  [⟨"GET", "/admin/users/7".toList, 200, []⟩, ⟨"GET", "/admin/users/81".toList, 200, []⟩,
    ⟨"POST", "/admin/auth/login".toList, 401, [.signIn "admin" false]⟩]

theorem figures_balance_sample :
    let t := (Traffic.waiting threeRequests).run [0, 2, 1, 2, 1, 0, 2]
    t.Finished
    ∧ t.recorder.value (inFlight "GET" "/admin/users/:id") = 0
    ∧ t.recorder.value (requestsTotal "GET" "/admin/users/:id" 200) = 2 := by
  have finished : ((Traffic.waiting threeRequests).run [0, 2, 1, 2, 1, 0, 2]).Finished := by
    decide
  obtain ⟨-, -, atEnd⟩ := figures_balance threeRequests [0, 2, 1, 2, 1, 0, 2]
  obtain ⟨none, answered, -⟩ := atEnd finished
  refine ⟨finished, none _ _, (answered _ _ _).1.trans ?_⟩
  decide

end StudyHall.Metrics
