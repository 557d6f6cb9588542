import StudyHall.Metrics.PathLabel
import StudyHall.Text.Numeral

/-!
# Figures about the service

What happens is told to a recorder as events, and each event adds amounts to some series. A series
is a name with labels; what it has been given so far is its value. A series that was never given
anything does not appear.

The time that requests take is a histogram of which only the number of requests is kept; its other
series are known by name.

## Main definitions

* `Event.additions` says what an event adds to which series.
* `Recorder.record` adds up; `Recorder.value` reads a series.
* `Recorder.lines` and `Recorder.seriesLines` write a recorder in the text format for scraping.
-/

namespace StudyHall.Metrics

open Text

/-! ## Series -/

/-- A name with labels. -/
structure Series where
  name : String
  labels : List (String × String)
  deriving DecidableEq, Repr

/-- A backslash as it is written. -/
def writtenBackslash : List Char := ['\\', '\\']

/-- Characters of a label value as they are written, a backslash before them being held back or
not. A value may have its escapes already: a backslash that is held back is dropped before a quote,
which gets its own, and stands for both before another one. -/
def escapeFrom (held : Bool) : List Char → List Char
  | [] => if held then writtenBackslash else []
  | c :: cs =>
      if c = '\n' then '\\' :: 'n' :: escapeFrom held cs
      else if c = '"' then '\\' :: '"' :: escapeFrom false cs
      else if c = '\\' then
        if held then writtenBackslash ++ escapeFrom false cs else escapeFrom true cs
      else (if held then writtenBackslash else []) ++ c :: escapeFrom false cs

/-- A label as it is written. -/
def labelText (label : String × String) : String :=
  label.1 ++ "=\"" ++ String.ofList (escapeFrom false label.2.toList) ++ "\""

/-- A series as it is written. -/
def Series.text (s : Series) : String :=
  s.name ++ "\x7b" ++ String.intercalate "," (s.labels.map labelText) ++ "\x7d"

/-- The requests that are being answered. -/
def inFlight (method path : String) : Series :=
  ⟨"http_requests_in_flight", [("method", method), ("path", path)]⟩

/-- The labels of an answered request. -/
def requestLabels (method path : String) (status : Nat) : List (String × String) :=
  [("method", method), ("path", path), ("status", natText status)]

/-- The requests that were answered. -/
def requestsTotal (method path : String) (status : Nat) : Series :=
  ⟨"http_requests_total", requestLabels method path status⟩

/-- The name of the histogram of durations. -/
def durationName : String := "http_request_duration_seconds"

/-- The requests whose duration was measured. -/
def durationCount (method path : String) (status : Nat) : Series :=
  ⟨durationName ++ "_count", requestLabels method path status⟩

/-- The attempts to sign in. -/
def authEvents (method : String) (success : Bool) : Series :=
  ⟨"auth_events_total",
    [("method", method), ("status", if success then "success" else "failure")]⟩

/-- The operators touched by an operation. -/
def mutationsTotal (operation : String) : Series :=
  ⟨"admin_directory_mutations_total", [("operation", operation)]⟩

/-! ## Events -/

/-- What a recorder is told; paths are labels already. -/
inductive Event where
  | started (method path : String)
  | finished (method path : String) (status : Nat)
  | signIn (method : String) (success : Bool)
  | mutation (operation : String) (affected : Nat)
  deriving DecidableEq, Repr

/-- What an event adds to which series. -/
def Event.additions : Event → List (Series × Int)
  | .started method path => [(inFlight method path, 1)]
  | .finished method path status =>
      [(inFlight method path, -1), (requestsTotal method path status, 1),
        (durationCount method path status, 1)]
  | .signIn method success => [(authEvents method success, 1)]
  | .mutation operation affected => [(mutationsTotal operation, affected)]

/-! ## Recorders -/

/-- Each series that was given something, with what it has. -/
structure Recorder where
  values : List (Series × Int)
  deriving DecidableEq

namespace Recorder

/-- The recorder that was told nothing. -/
def empty : Recorder := ⟨[]⟩

/-- Values with an amount added to one series, which is put at the end if it is new. -/
def addTo (series : Series) (amount : Int) : List (Series × Int) → List (Series × Int)
  | [] => [(series, amount)]
  | (s, v) :: rest =>
      if s = series then (s, v + amount) :: rest else (s, v) :: addTo series amount rest

/-- A recorder after additions. -/
def addAll (r : Recorder) (additions : List (Series × Int)) : Recorder :=
  ⟨additions.foldl (fun values a => addTo a.1 a.2 values) r.values⟩

/-- A recorder after one event more. -/
def record (r : Recorder) (e : Event) : Recorder :=
  r.addAll e.additions

/-- A recorder after more events. -/
def recordAll (r : Recorder) (es : List Event) : Recorder :=
  es.foldl record r

/-- What a series has; nothing is zero. -/
def value (r : Recorder) (s : Series) : Int :=
  (r.values.lookup s).getD 0

/-! ## Writing -/

/-- The order of lines: by code point. -/
def lineBefore (a b : String) : Bool := a ≤ b

/-- The series with their values, one line each, sorted. -/
def lines (r : Recorder) : List String :=
  (r.values.map fun v => v.1.text ++ " " ++ intText v.2).mergeSort lineBefore

/-- The upper bounds of the histogram of durations, in seconds. -/
def durationBounds : List String :=
  ["0.005", "0.01", "0.025", "0.05", "0.1", "0.25", "0.5", "1", "2.5", "5", "10", "+Inf"]

/-- A series with the further ones of its histogram, if it counts one. -/
def withHistogram (s : Series) : List Series :=
  if s.name = durationName ++ "_count" then
    s :: ⟨durationName ++ "_sum", s.labels⟩
      :: durationBounds.map fun b => ⟨durationName ++ "_bucket", s.labels ++ [("le", b)]⟩
  else [s]

/-- All series without their values, one line each, sorted. -/
def seriesLines (r : Recorder) : List String :=
  ((r.values.flatMap fun v => withHistogram v.1).map Series.text).mergeSort lineBefore

end Recorder

/-! ## Tracking requests -/

/-- What is told of a request that is answered with a status, from start to end. -/
def requestEvents (method : String) (path : List Char) (status : Nat) : List Event :=
  [.started method (PathLabel.ofPath path), .finished method (PathLabel.ofPath path) status]

end StudyHall.Metrics
