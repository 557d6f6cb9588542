import StudyHall.Console.Dashboard
import StudyHall.Proofs.Calendar.DateText
import StudyHall.Proofs.Calendar.DaysBack

/-!
# The days of a series

The points of a series are found by counting back whole days from a time, and both the date and the
value of a point depend on the number of its day alone. So a series is determined by the numbers of
its days: these are consecutive and end with the day of the time, and there is no series if the
first of them lies before the representable years.

An inserted second at the end of a day, which no clock shows, makes an exception, because days are
counted back from the midnight that follows it. There the first day of the window is missing and the
last one stands twice.

Since a text is the date of one day only, points with the same text have the same day, in whatever
series they stand.

## Main results

* `timeSeries_eq` — a series by the numbers of its days.
* `series_shows_days` — how many points, and with what dates.
* `inserted_second_repeats_day` — the exception.
* `series_agree` — the values of the points of two series.
-/

namespace StudyHall

open Calendar

/-! ## Points of days -/

/-- The point of a day. -/
def SeriesPoint.ofDay (m : Metric) (n : Int) : SeriesPoint :=
  ⟨(Date.ofDay n).toText, m.onDay n⟩

/-- The day of the point some days back in a series. -/
def Instant.seriesDay (now : Instant) (back : Nat) : Int :=
  if back = 0 then now.day else now.countDay - back

namespace Dashboard

variable {m : Metric} {now : Instant}

theorem seriesDay_of_not_closesDay (within : ¬ now.ClosesDay) (back : Nat) :
    now.seriesDay back = now.day - back := by
  unfold Instant.seriesDay
  rw [Instant.countDay_of_not_closesDay within]
  split <;> omega

theorem seriesDay_of_closesDay (closes : now.ClosesDay) (back : Nat) :
    now.seriesDay (back + 1) = now.day - back := by
  unfold Instant.seriesDay
  rw [Instant.countDay_of_closesDay closes, if_neg (by omega)]
  omega

/-- Further back there is no later day. -/
theorem seriesDay_anti {j k : Nat} (order : j ≤ k) : now.seriesDay k ≤ now.seriesDay j := by
  by_cases closes : now.ClosesDay
  · have after := Instant.countDay_of_closesDay closes
    unfold Instant.seriesDay
    split <;> split <;> omega
  · rw [seriesDay_of_not_closesDay closes, seriesDay_of_not_closesDay closes]
    omega

/-- A point is there exactly if its day lies in the representable years. -/
theorem daysBack?_eq (m : Metric) (now : Instant) (back : Nat) :
    SeriesPoint.daysBack? m now back
      = if (Date.ofDay (now.seriesDay back)).year < -262143 then none
        else some (SeriesPoint.ofDay m (now.seriesDay back)) := by
  unfold SeriesPoint.daysBack? Instant.seriesDay
  by_cases today : back = 0
  · have years := now.year_bounds
    rw [today, Int.natCast_zero, Int.mul_zero, Instant.after?_zero, if_pos rfl,
      if_neg (by omega)]
    rfl
  · have back' : 0 < back := Nat.pos_of_ne_zero today
    rw [if_neg today]
    cases found : now.after? (Span.seconds (-secondsPerDay * back)) with
    | none =>
        rw [if_pos ((now.daysBack_eq_none_iff back').mp found)]
        rfl
    | some t =>
        have representable : ¬ (Date.ofDay (now.countDay - back)).year < -262143 := by
          rw [← now.daysBack_eq_none_iff back', found]
          exact Option.some_ne_none t
        rw [if_neg representable, ← Instant.day_of_daysBack back' found]
        rfl

/-- A list of computations of which each fails under a condition succeeds if none fails. -/
theorem mapM_ite {α β : Type} {p : α → Prop} [DecidablePred p] {f : α → Option β} {g : α → β}
    (each : ∀ a, f a = if p a then none else some (g a)) (l : List α) :
    l.mapM f = if ∃ a ∈ l, p a then none else some (l.map g) := by
  induction l with
  | nil => simp
  | cons a l ih =>
      rw [List.mapM_cons, each, ih]
      by_cases first : p a
      · simp [first]
      · by_cases later : ∃ b ∈ l, p b
        · simp [first, later]
        · simp [first, later]

theorem days_pos (w : Window) : 1 ≤ w.days := by
  cases w <;> decide

/-- The first day of a window is the one that may lie outside of the representable years. -/
theorem exists_outside_iff (now : Instant) (n : Nat) (positive : 1 ≤ n) :
    (∃ k ∈ (List.range n).reverse, (Date.ofDay (now.seriesDay k)).year < -262143)
      ↔ (Date.ofDay (now.seriesDay (n - 1))).year < -262143 := by
  constructor
  · rintro ⟨k, mem, outside⟩
    have within := List.mem_range.mp (List.mem_reverse.mp mem)
    have order : now.seriesDay (n - 1) ≤ now.seriesDay k := seriesDay_anti (by omega)
    rw [Date.year_ofDay_lt_iff] at outside ⊢
    omega
  · intro outside
    exact ⟨n - 1, List.mem_reverse.mpr (List.mem_range.mpr (by omega)), outside⟩

variable {metric range : String} {w : Window}

/-- A series by the numbers of its days. -/
theorem timeSeries_eq (b : Dashboard) (exam : Option Exam) (now : Instant)
    (metricRead : Metric.parse metric = .ok m) (rangeRead : Window.parse range = .ok w) :
    b.timeSeries metric exam range now
      = if (Date.ofDay (now.seriesDay (w.days - 1))).year < -262143 then .error .outsideCalendar
        else .ok ⟨m, b.examFor exam, w,
          (List.range w.days).reverse.map fun k => SeriesPoint.ofDay m (now.seriesDay k)⟩ := by
  unfold timeSeries
  rw [metricRead, rangeRead]
  simp only [mapM_ite (daysBack?_eq m now), exists_outside_iff now w.days (days_pos w)]
  by_cases outside : (Date.ofDay (now.seriesDay (w.days - 1))).year < -262143
  · simp only [if_pos outside]
  · simp only [if_neg outside]

end Dashboard

namespace Calendar.Date

/-- Whether the years are not representable any more some days before a date. -/
def LeavesCalendar (last : Date) (back : Nat) : Prop :=
  ∃ d : Date, d.isValid = true ∧ next^[back] d = last ∧ d.year < -262143

/-- As long as years have four digits, dates take ten characters each and are in order as texts. -/
def TextsAscend (dates : List Date) : Prop :=
  (∀ d ∈ dates, 0 ≤ d.year ∧ d.year ≤ 9999) →
    (∀ d ∈ dates, d.toText.length = 10) ∧ (dates.map toText).Pairwise (· < ·)

theorem leavesCalendar_ofDay (n : Int) (back : Nat) :
    (ofDay n).LeavesCalendar back ↔ (ofDay (n - back)).year < -262143 := by
  constructor
  · rintro ⟨d, valid, leads, outside⟩
    rwa [← (iterate_next_eq_ofDay valid).mp leads]
  · intro outside
    exact ⟨_, isValid_ofDay _, (iterate_next_eq_ofDay (isValid_ofDay _)).mpr rfl, outside⟩

theorem RunsUpTo.textsAscend {last : Date} {dates : List Date} (runs : RunsUpTo last dates) :
    TextsAscend dates :=
  fun years => ⟨fun d mem => length_toText (years d mem), runs.pairwise_toText years⟩

end Calendar.Date

namespace Dashboard

variable {m : Metric} {now : Instant} {metric range : String} {w : Window}

/-- The dates of a series, as they are counted. -/
theorem timeSeries_dates (b : Dashboard) (exam : Option Exam) (now : Instant)
    (metricRead : Metric.parse metric = .ok m) (rangeRead : Window.parse range = .ok w) :
    let answer := b.timeSeries metric exam range now
    (answer = .error .outsideCalendar
        ↔ (Date.ofDay (now.seriesDay (w.days - 1))).year < -262143)
      ∧ (answer ≠ .error .outsideCalendar → ∃ points,
        answer = .ok ⟨m, b.examFor exam, w, points⟩ ∧ points.map SeriesPoint.date
          = ((List.range w.days).reverse.map fun k => Date.ofDay (now.seriesDay k)).map
            Date.toText) := by
  intro answer
  have given : answer = _ := timeSeries_eq b exam now metricRead rangeRead
  rw [given]
  by_cases outside : (Date.ofDay (now.seriesDay (w.days - 1))).year < -262143
  · rw [if_pos outside]
    exact ⟨iff_of_true rfl outside, fun other => absurd rfl other⟩
  · rw [if_neg outside]
    refine ⟨iff_of_false (by simp) outside, fun _ => ⟨_, rfl, ?_⟩⟩
    rw [List.map_map, List.map_map]
    rfl

/-- Outside of an inserted second at the end of a day the days of a window are those up to the day
of the time. -/
theorem dates_of_ordinary (ordinary : ¬ (now.ClosesDay ∧ 1 < w.days)) :
    (List.range w.days).reverse.map (fun k => Date.ofDay (now.seriesDay k))
        = (List.range (w.days - 1 + 1)).reverse.map (fun k : Nat => Date.ofDay (now.day - k))
      ∧ now.seriesDay (w.days - 1) = now.day - (w.days - 1 : Nat) := by
  have positive := days_pos w
  have counted : ∀ k < w.days, now.seriesDay k = now.day - k := by
    intro k within
    by_cases closes : now.ClosesDay
    · have only : k = 0 := by
        by_contra later
        exact ordinary ⟨closes, by omega⟩
      rw [only, Int.natCast_zero, Int.sub_zero]
      rfl
    · exact seriesDay_of_not_closesDay closes k
  rw [Nat.sub_add_cancel positive]
  refine ⟨List.map_congr_left fun k mem => ?_, counted _ (by omega)⟩
  rw [counted k (List.mem_range.mp (List.mem_reverse.mp mem))]

/-- In an inserted second at the end of a day the last day stands twice. -/
theorem dates_of_closesDay (closes : now.ClosesDay) (long : 1 < w.days) :
    (List.range w.days).reverse.map (fun k => Date.ofDay (now.seriesDay k))
        = (List.range (w.days - 2 + 1)).reverse.map (fun k : Nat => Date.ofDay (now.day - k))
          ++ [Date.ofDay now.day]
      ∧ now.seriesDay (w.days - 1) = now.day - (w.days - 2 : Nat) := by
  obtain ⟨n, length⟩ : ∃ n, w.days = n + 1 + 1 := ⟨w.days - 2, by omega⟩
  rw [length]
  refine ⟨?_, seriesDay_of_closesDay closes n⟩
  rw [List.range_succ_eq_map, List.reverse_cons, List.map_append, List.map_reverse, List.map_map,
    List.map_reverse]
  refine congrArg (· ++ [Date.ofDay now.day]) (congrArg List.reverse ?_)
  exact List.map_congr_left fun k _ => congrArg Date.ofDay (seriesDay_of_closesDay closes k)

/-- For every metric and window that are read, every exam and every time, there is no answer exactly
if the first day of the window lies before the representable years. Otherwise there is one point for
each day of the window, and the dates of the points are consecutive, by the rule of the calendar,
and end with the date of the time. As texts they are in order while the years have four digits.

In a second that is inserted at the end of a day, a window of more than one day is counted back from
the day after. Then the points but the last one are those of consecutive dates that end with the
date of the time, and the last point has this date once more. -/
theorem series_shows_days (b : Dashboard) (exam : Option Exam) (now : Instant)
    (metricRead : Metric.parse metric = .ok m) (rangeRead : Window.parse range = .ok w) :
    let answer := b.timeSeries metric exam range now
    let Shows (dates : List Date) := ∃ points, answer = .ok ⟨m, b.examFor exam, w, points⟩
      ∧ points.map SeriesPoint.date = dates.map Date.toText
    ∃ today, now.IsOn today
      ∧ (¬ (now.ClosesDay ∧ 1 < w.days) →
          (answer = .error .outsideCalendar ↔ today.LeavesCalendar (w.days - 1))
            ∧ (answer ≠ .error .outsideCalendar → ∃ dates, Shows dates
              ∧ dates.length = w.days ∧ Date.RunsUpTo today dates ∧ Date.TextsAscend dates))
      ∧ (now.ClosesDay ∧ 1 < w.days →
          (answer = .error .outsideCalendar ↔ today.LeavesCalendar (w.days - 2))
            ∧ (answer ≠ .error .outsideCalendar → ∃ dates, Shows (dates ++ [today])
              ∧ dates.length = w.days - 1 ∧ Date.RunsUpTo today dates
              ∧ Date.TextsAscend dates)) := by
  intro answer Shows
  have positive := days_pos w
  obtain ⟨crash, shown⟩ := timeSeries_dates b exam now metricRead rangeRead
  refine ⟨Date.ofDay now.day, Instant.isOn_iff.mpr rfl, fun ordinary => ?_,
    fun ⟨closes, long⟩ => ?_⟩
  · obtain ⟨days, first⟩ := dates_of_ordinary ordinary
    have runs := Date.runsUpTo_ofDay now.day (w.days - 1)
    rw [days] at shown
    rw [first] at crash
    rw [Date.leavesCalendar_ofDay]
    refine ⟨crash, fun done => ⟨_, shown done, ?_, runs, runs.textsAscend⟩⟩
    simp only [List.length_map, List.length_reverse, List.length_range]
    omega
  · obtain ⟨days, first⟩ := dates_of_closesDay closes long
    have runs := Date.runsUpTo_ofDay now.day (w.days - 2)
    rw [days] at shown
    rw [first] at crash
    rw [Date.leavesCalendar_ofDay]
    refine ⟨crash, fun done => ⟨_, shown done, ?_, runs, runs.textsAscend⟩⟩
    simp only [List.length_map, List.length_reverse, List.length_range]
    omega

/-- A dashboard. -/
def sampleDashboard : Dashboard := ⟨.jee⟩

/-- In the week up to 1970-01-03 the year changes; a week up to the first day of all is not
representable. -/
theorem series_shows_days_sample :
    let newYear : Instant := ⟨172800, 0, by decide⟩
    let dawn : Instant := ⟨Instant.firstSecond, 0, by decide⟩
    Metric.parse "Active_Users " = .ok .activeUsers ∧ Window.parse "" = .ok .week
      ∧ (∃ dates points,
        sampleDashboard.timeSeries "Active_Users " none "" newYear
            = .ok ⟨.activeUsers, .jee, .week, points⟩
          ∧ points.map SeriesPoint.date = dates.map Date.toText
          ∧ dates.length = 7 ∧ Date.RunsUpTo ⟨1970, 1, 3⟩ dates)
      ∧ sampleDashboard.timeSeries "Active_Users " none "" dawn = .error .outsideCalendar := by
  intro newYear dawn
  have metricRead : Metric.parse "Active_Users " = .ok .activeUsers := by decide +kernel
  have rangeRead : Window.parse "" = .ok .week := by decide +kernel
  refine ⟨metricRead, rangeRead, ?_, ?_⟩
  · obtain ⟨today, on, ordinary, -⟩ :=
      series_shows_days sampleDashboard none newYear metricRead rangeRead
    obtain rfl := Instant.isOn_iff.mp on
    obtain ⟨crash, shown⟩ := ordinary (by decide)
    have there : ¬ (Date.ofDay newYear.day).LeavesCalendar (Window.week.days - 1) := by
      rw [Date.leavesCalendar_ofDay]
      decide
    obtain ⟨dates, ⟨points, answer, texts⟩, length, runs, -⟩ := shown fun e => there (crash.mp e)
    exact ⟨dates, points, answer, texts, length, runs⟩
  · obtain ⟨today, on, ordinary, -⟩ :=
      series_shows_days sampleDashboard none dawn metricRead rangeRead
    obtain rfl := Instant.isOn_iff.mp on
    refine (ordinary (by decide)).1.mpr ?_
    rw [Date.leavesCalendar_ofDay]
    decide

/-- In the second that was inserted at the end of 2016, the week has two points for its last day and
none for its first one. -/
theorem inserted_second_repeats_day :
    let now : Instant := ⟨1483228799, 1000000000, by decide⟩
    ∃ points, sampleDashboard.timeSeries "active_users" none "7d" now
        = .ok ⟨.activeUsers, .jee, .week, points⟩
      ∧ points.map SeriesPoint.date = ["2016-12-26", "2016-12-27", "2016-12-28", "2016-12-29",
        "2016-12-30", "2016-12-31", "2016-12-31"]
      ∧ ¬ (points.map SeriesPoint.date).Pairwise (· < ·) := by
  exact ⟨_, rfl, by decide +kernel, by decide +kernel⟩

/-! ## Values -/

/-- The points of a series are points of days. -/
theorem exists_day_of_mem {b : Dashboard} {exam : Option Exam} {s : TimeSeries}
    (answered : b.timeSeries metric exam range now = .ok s) {p : SeriesPoint}
    (mem : p ∈ s.points) : ∃ n, p = SeriesPoint.ofDay s.metric n := by
  have read := answered
  unfold timeSeries at read
  split at read
  · cases read
  · next m metricRead =>
      split at read
      · cases read
      · next w rangeRead =>
          rw [timeSeries_eq b exam now metricRead rangeRead] at answered
          split at answered
          · cases answered
          · cases answered
            obtain ⟨k, -, rfl⟩ := List.mem_map.mp mem
            exact ⟨_, rfl⟩

/-- Points of days of which one comes some days after the other. -/
theorem value_ofDay_add (m : Metric) (n : Int) (k : Nat) :
    ((SeriesPoint.ofDay m (n + k)).value - (SeriesPoint.ofDay m n).value) % 200
      = (k : Int) % 200 := by
  simp only [SeriesPoint.ofDay, Metric.onDay]
  omega

theorem value_bounds (m : Metric) (n : Int) :
    m.base + 100 ≤ (SeriesPoint.ofDay m n).value
      ∧ (SeriesPoint.ofDay m n).value ≤ m.base + 299 := by
  simp only [SeriesPoint.ofDay, Metric.onDay]
  omega

/-- In any two series of one metric, whatever their times, exams and windows, every point bears the
text of a date. Points with the same text have the same value, and if the date of one point comes
some days after that of the other, the values differ by the number of these days, up to multiples of
200. All values lie in the same 200 places above the level of the metric. -/
theorem series_agree {b₁ b₂ : Dashboard} {metric₁ metric₂ range₁ range₂ : String}
    {exam₁ exam₂ : Option Exam} {now₁ now₂ : Instant} {s₁ s₂ : TimeSeries}
    (first : b₁.timeSeries metric₁ exam₁ range₁ now₁ = .ok s₁)
    (second : b₂.timeSeries metric₂ exam₂ range₂ now₂ = .ok s₂) (same : s₁.metric = s₂.metric) :
    (s₁.metric.base = 750 ∨ s₁.metric.base = 1800)
      ∧ ∀ p ∈ s₁.points ++ s₂.points,
        (∃ d : Date, d.isValid = true ∧ p.date = d.toText)
        ∧ (s₁.metric.base + 100 ≤ p.value ∧ p.value ≤ s₁.metric.base + 299)
        ∧ ∀ q ∈ s₁.points ++ s₂.points,
          (p.date = q.date → p.value = q.value)
          ∧ ∀ (d : Date) (k : Nat), d.isValid = true → p.date = d.toText →
              q.date = (Date.next^[k] d).toText → (q.value - p.value) % 200 = (k : Int) % 200 := by
  have onDay : ∀ p ∈ s₁.points ++ s₂.points, ∃ n, p = SeriesPoint.ofDay s₁.metric n := by
    intro p mem
    rcases List.mem_append.mp mem with mem | mem
    · exact exists_day_of_mem first mem
    · rw [same]
      exact exists_day_of_mem second mem
  have level : s₁.metric.base = 750 ∨ s₁.metric.base = 1800 := by
    cases s₁.metric with
    | activeUsers => exact .inl rfl
    | questionsAnswered => exact .inr rfl
  refine ⟨level, fun p memP => ?_⟩
  obtain ⟨n, rfl⟩ := onDay p memP
  refine ⟨⟨Date.ofDay n, Date.isValid_ofDay n, rfl⟩, value_bounds _ n, fun q memQ => ?_⟩
  obtain ⟨j, rfl⟩ := onDay q memQ
  -- The text is that of one date, and the date that of one day.
  have dayOf {i : Int} {d : Date} (valid : d.isValid = true)
      (text : (SeriesPoint.ofDay s₁.metric i).date = d.toText) : d = Date.ofDay i :=
    ((Date.toText_inj (Date.isValid_ofDay i) valid).mp text).symm
  constructor
  · intro text
    have day : j = n := Date.ofDay_inj.mp (dayOf (Date.isValid_ofDay j) text)
    rw [day]
  · intro d k valid textP textQ
    obtain rfl := dayOf valid textP
    rw [Date.iterate_next_ofDay] at textQ
    have day : n + k = j := Date.ofDay_inj.mp (dayOf (Date.isValid_ofDay _) textQ)
    rw [← day]
    exact value_ofDay_add _ n k

/-- The last second of 1969 and a week that begins in that year. -/
theorem series_agree_sample :
    let newYear : Instant := ⟨172800, 0, by decide⟩
    let eve : Instant := ⟨-1, 999999999, by decide⟩
    ∃ s₁ s₂, sampleDashboard.timeSeries "active_users" none "7d" newYear = .ok s₁
      ∧ sampleDashboard.timeSeries "ACTIVE_USERS" (some .upsc) "today" eve = .ok s₂
      ∧ s₁.metric = s₂.metric
      ∧ ∃ p ∈ s₁.points, ∃ q ∈ s₂.points, p.date = "1969-12-31" ∧ q.date = "1969-12-31"
        ∧ p.value = q.value ∧ 850 ≤ q.value := by
  intro newYear eve
  have first := timeSeries_eq sampleDashboard none newYear
    (show Metric.parse "active_users" = .ok .activeUsers by decide +kernel)
    (show Window.parse "7d" = .ok .week by decide +kernel)
  have second := timeSeries_eq sampleDashboard (some .upsc) eve
    (show Metric.parse "ACTIVE_USERS" = .ok .activeUsers by decide +kernel)
    (show Window.parse "today" = .ok .today by decide +kernel)
  rw [if_neg (by decide)] at first second
  obtain ⟨-, agree⟩ := series_agree first second rfl
  have memP : SeriesPoint.ofDay .activeUsers (-1) ∈ (List.range Window.week.days).reverse.map
      fun k => SeriesPoint.ofDay .activeUsers (newYear.seriesDay k) :=
    List.mem_map.mpr ⟨3, by decide, rfl⟩
  have memQ : SeriesPoint.ofDay .activeUsers (-1) ∈ (List.range Window.today.days).reverse.map
      fun k => SeriesPoint.ofDay .activeUsers (eve.seriesDay k) :=
    List.mem_map.mpr ⟨0, by decide, rfl⟩
  obtain ⟨-, bounds, together⟩ := agree _ (List.mem_append_right _ memQ)
  exact ⟨_, _, first, second, rfl, _, memP, _, memQ, by decide +kernel, by decide +kernel,
    (together _ (List.mem_append_left _ memP)).1 rfl, bounds.1⟩

end Dashboard

end StudyHall
