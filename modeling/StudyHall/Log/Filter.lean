import StudyHall.Log.Directive
import StudyHall.Settings.Variable

/-!
# Which events are logged

A filter is a list of directives between commas. Of the directives that fit an event the most
particular decides, and of two with one target and field the last. Besides, an event is logged if a
span around it grants that.

The service is given such a list, and a level for the case that the list is none. A list made from
the level is taken without what is no directive in it.

## Main definitions

* `Filter.parse` reads a list of directives; `Filter.lenient` leaves out what is none.
* `Filter.logs` tells whether an event is logged, `Filter.passes` whether a plain one is.
* `Setup.of` is the filter of the service with what was ignored.
-/

namespace StudyHall.Log

open Text

/-! ## Filters -/

/-- Directives in order. -/
abbrev Filter := List Directive

/-- A text that was ignored among directives. -/
structure Ignored where
  text : List Char
  fault : DirectiveFault
  deriving DecidableEq, Repr

/-- The report of an ignored text. -/
def Ignored.message (i : Ignored) : String :=
  "ignoring \x60" ++ String.ofList i.text ++ "\x60: " ++ i.fault.message

namespace Filter

/-- The texts of the directives in a list. -/
def directiveTexts (s : String) : List (List Char) :=
  (pieces (· == ',') s.toList).filter fun p => !p.isEmpty

/-- The filter of a list in which everything is a directive. -/
def parse (s : String) : Read Filter :=
  (directiveTexts s).mapM Directive.parse

/-- Texts read one after the other: those that are no directives, and the filter of the others
unless reading breaks down. -/
def readTexts : List (List Char) → List Ignored × Option Filter
  | [] => ([], some [])
  | text :: texts =>
      match Directive.parse text with
      | .ok d =>
          let (ignored, rest) := readTexts texts
          (ignored, rest.map fun f => d :: f)
      | .error (.refused fault) =>
          let (ignored, rest) := readTexts texts
          (⟨text, fault⟩ :: ignored, rest)
      | .error _ => ([], none)

/-- The filter of a list, without what is no directive. -/
def lenient (s : String) : List Ignored × Option Filter :=
  readTexts (directiveTexts s)

/-- The directive that decides where two fit, unless the first does not. -/
def stronger (best : Option Directive) (d : Directive) : Option Directive :=
  match best with
  | none => some d
  | some b => if b.YieldsTo d then some d else some b

/-- The directive that decides about an event. -/
def deciding? (f : Filter) (e : Event) : Option Directive :=
  (f.filter fun d => d.fits e).foldl stronger none

/-- Whether an event is logged: a span around it grants that, or the directive that decides about
it does. -/
def logs (f : Filter) (e : Event) : Bool :=
  e.granted.any (fun v => e.level.rank ≤ v)
    || (deciding? f e).any fun d => e.level.rank ≤ d.verbosity

/-- Whether a plain event is logged. -/
def passes (f : Filter) (target : String) (level : Level) : Bool :=
  f.logs (.plain target level)

end Filter

/-! ## The filter of the service -/

/-- The word for a level, without the blanks around it; nothing means the level for information. -/
def levelWord (level : String) : String :=
  if trim level = "" then "info" else trim level

/-- The directives of a level: for everything, for requests, and the database kept quiet. -/
def levelDirectives (level : String) : String :=
  levelWord level ++ ",tower_http=" ++ levelWord level ++ ",sqlx=warn"

/-- What the service logs. -/
structure Setup where
  /-- The texts that were ignored, in order. -/
  ignored : List Ignored
  /-- The filter, unless reading it broke down. -/
  filter? : Option Filter
  deriving DecidableEq

/-- The setup for a level and a list, if one is given: by the list if it is one, or else by the
level. -/
def Setup.of (level : String) (given : Option String) : Setup :=
  let byLevel : Setup :=
    let (ignored, filter?) := Filter.lenient (levelDirectives level)
    ⟨ignored, filter?⟩
  match given.map Filter.parse with
  | none => byLevel
  | some (.ok f) => ⟨[], some f⟩
  | some (.error (.refused _)) => byLevel
  | some (.error _) => ⟨[], none⟩

/-! ## The first event -/

/-- The target of the first event. -/
def startTarget : String := "prep_api::tracing"

/-- The first event. -/
def startMessage : Environment → String
  | .development => "Tracing initialized in development mode"
  | .production => "Tracing initialized in production mode"

/-- How events are written. -/
def format : Environment → String
  | .development => "pretty"
  | .production => "json"

end StudyHall.Log
