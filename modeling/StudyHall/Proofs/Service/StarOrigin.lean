import StudyHall.Proofs.Service.Launch
import StudyHall.Proofs.Text.Pieces

/-!
# Origins that a service starts with

The origins are listed in one text, and whatever that text is, a list comes of it: the entries are
cut at commas, blanks around them do not count, and entries that cannot stand in a header are passed
over. So the text has no say in whether a service can be assembled. It has one in whether the
service starts: the star can stand in a header and is not passed over, and the layer for calls from
other origins cannot be made with it.

## Main results

* `assemble_withOrigins` — the text of the origins decides about the origins alone.
* `launch_withOrigins` — whether a service starts with a text of origins.
* `star_alone_stops_launch` — the star is the one entry that keeps a service from starting.
-/

namespace StudyHall

open Text

/-- A list of origins has the star as an entry: a piece that is the star between blanks. -/
def ListsStar (text : String) : Prop :=
  ∃ piece ∈ pieces (· == ',') text.toList, trim (String.ofList piece) = "*"

theorem star_mem_items_iff {text : String} : "*" ∈ items text ↔ ListsStar text := by
  have visible : ("*" : String) ≠ "" := by decide
  rw [mem_items_iff]
  constructor
  · rintro ⟨-, listed⟩
    exact listed
  · intro listed
    exact ⟨visible, listed⟩

/-- The star can stand in a header, so it is not passed over. -/
theorem star_mem_usableOrigins_iff {origins : List String} :
    "*" ∈ usableOrigins origins ↔ "*" ∈ origins := by
  have usable : ("*" : String).toList.all isHeaderChar = true := by decide +kernel
  unfold usableOrigins
  rw [List.mem_filter]
  constructor
  · rintro ⟨listed, -⟩
    exact listed
  · intro listed
    exact ⟨listed, usable⟩

namespace Settings

/-- Settings with another text for the origins. -/
def withOrigins (s : Settings) (text : String) : Settings :=
  { s with allowedOrigins := text }

variable {s : Settings} {text : String} {now : Instant} {reportsMetrics : Bool} {service : Service}
  {d : Directory}

theorem adminProfile_withOrigins : (s.withOrigins text).adminProfile now = s.adminProfile now := by
  simp only [adminProfile, adminSince, withOrigins]

/-- The text of the origins decides about the origins of a service and about nothing else. -/
theorem assemble_withOrigins :
    (s.withOrigins text).assemble now reportsMetrics
      = (s.assemble now reportsMetrics).map fun built =>
          ({ built.1 with origins := usableOrigins (items text) }, built.2) := by
  unfold assemble
  rw [adminProfile_withOrigins]
  cases s.adminProfile now with
  | error e => rfl
  | ok profile =>
      unfold TokenService.ofMinutes? withOrigins
      by_cases counted : (60 * s.jwtTokenTtlMinutes.toInt).natAbs ≤ maxLifetimeSeconds
      · simp only [if_pos counted]
        rfl
      · simp only [if_neg counted]
        rfl

/-- What keeps a service from being assembled is the first operator or the lifetime of tokens. -/
theorem assemble_ne_wildcardOrigin :
    s.assemble now reportsMetrics ≠ .error .wildcardOrigin := by
  unfold assemble
  intro stopped
  split at stopped
  · cases stopped
  · simp only at stopped
    split at stopped <;> cases stopped

/-- A service that can be assembled starts with any text of origins that does not list the star. -/
theorem launch_withOrigins (assembled : s.assemble now reportsMetrics = .ok (service, d)) :
    (ListsStar text →
        (s.withOrigins text).launch now reportsMetrics = .error .wildcardOrigin)
      ∧ (¬ ListsStar text →
        (s.withOrigins text).launch now reportsMetrics
          = .ok ({ service with origins := usableOrigins (items text) }, d)) := by
  have built : (s.withOrigins text).assemble now reportsMetrics
      = .ok ({ service with origins := usableOrigins (items text) }, d) := by
    rw [assemble_withOrigins, assembled]
    rfl
  have star : (usableOrigins (items text)).contains "*" = true ↔ ListsStar text := by
    rw [List.contains_iff_mem, star_mem_usableOrigins_iff, star_mem_items_iff]
  unfold launch
  rw [built]
  constructor
  · intro listed
    exact if_pos (star.mpr listed)
  · intro unlisted
    exact if_neg fun listed => unlisted (star.mp listed)

/-- Whatever the text of the origins, a service that can be assembled starts with the entries that
can stand in a header, in their order, unless the star is an entry. The star keeps a service from
starting whenever it can be assembled at all, and nothing else in the text does. -/
theorem star_alone_stops_launch (s : Settings) (text : String) (now : Instant)
    (reportsMetrics : Bool) :
    (∀ service d, s.assemble now reportsMetrics = .ok (service, d) → ¬ ListsStar text →
        (s.withOrigins text).launch now reportsMetrics
          = .ok ({ service with
              origins := (items text).filter fun o => o.toList.all isHeaderChar }, d))
      ∧ ((s.withOrigins text).launch now reportsMetrics = .error .wildcardOrigin ↔
          (∃ built, s.assemble now reportsMetrics = .ok built) ∧ ListsStar text) := by
  refine ⟨fun service d assembled unlisted => (launch_withOrigins assembled).2 unlisted, ?_⟩
  constructor
  · intro stopped
    cases assembled : s.assemble now reportsMetrics with
    | error e =>
        unfold launch at stopped
        rw [assemble_withOrigins, assembled] at stopped
        rw [Except.error.inj stopped] at assembled
        exact absurd assembled assemble_ne_wildcardOrigin
    | ok built =>
        obtain ⟨service, d⟩ := built
        refine ⟨⟨_, rfl⟩, Classical.byContradiction fun unlisted => ?_⟩
        rw [(launch_withOrigins assembled).2 unlisted] at stopped
        cases stopped
  · rintro ⟨⟨⟨service, d⟩, assembled⟩, listed⟩
    exact (launch_withOrigins assembled).1 listed

/-- A text with an entry that is blank and one that cannot stand in a header. -/
theorem star_alone_stops_launch_sample :
    ∃ service d, (hallSettings "user" "admin").assemble .epoch true = .ok (service, d)
      ∧ ((hallSettings "user" "admin").withOrigins
            "https://a.test, , https://b\x7f.test,*.c.test").launch .epoch true
          = .ok ({ service with origins := ["https://a.test", "*.c.test"] }, d) := by
  obtain ⟨⟨service, d⟩, assembled⟩ :
      ∃ built, (hallSettings "user" "admin").assemble .epoch true = .ok built := ⟨_, rfl⟩
  have unlisted : ¬ ListsStar "https://a.test, , https://b\x7f.test,*.c.test" := by
    rw [← star_mem_items_iff]
    decide +kernel
  have kept : (items "https://a.test, , https://b\x7f.test,*.c.test").filter
      (fun o => o.toList.all isHeaderChar) = ["https://a.test", "*.c.test"] := by decide +kernel
  have starts := (star_alone_stops_launch (hallSettings "user" "admin")
    "https://a.test, , https://b\x7f.test,*.c.test" .epoch true).1 service d assembled unlisted
  rw [kept] at starts
  exact ⟨service, d, assembled, starts⟩

/-- The star alone, and the star after another origin: neither is passed over, though a service
could be assembled. -/
theorem star_not_passed_over :
    (∃ built, (hallSettings "user" "admin").assemble .epoch true = .ok built)
      ∧ ((hallSettings "user" "admin").withOrigins "*").launch .epoch true
        = .error .wildcardOrigin
      ∧ ((hallSettings "user" "admin").withOrigins "https://a.test, *").launch .epoch true
        = .error .wildcardOrigin := by
  obtain ⟨⟨service, d⟩, assembled⟩ :
      ∃ built, (hallSettings "user" "admin").assemble .epoch true = .ok built := ⟨_, rfl⟩
  have alone : ListsStar "*" := by
    rw [← star_mem_items_iff]
    decide +kernel
  have behind : ListsStar "https://a.test, *" := by
    rw [← star_mem_items_iff]
    decide +kernel
  exact ⟨⟨_, assembled⟩, (launch_withOrigins assembled).1 alone,
    (launch_withOrigins assembled).1 behind⟩

end Settings

end StudyHall
