import StudyHall.Json.Printer
import StudyHall.Text.Lowercase

/-!
# Requests and responses

What reaches the service and what it sends back. Header names are kept in lower case; a header may
stand several times, and then the first one counts. A body is kept as what it stands for, and
`Body.text` is what is sent.
-/

namespace StudyHall

/-! ## Headers -/

/-- Whether a character may stand in a header value that is read as text. -/
def isHeaderText (c : Char) : Bool :=
  (32 ≤ c.toNat && c.toNat < 127) || c == '\t'

/-- Whether a character may stand in a header value. -/
def isHeaderChar (c : Char) : Bool :=
  (32 ≤ c.toNat && c.toNat != 127) || c == '\t'

/-- What is read as text can be written. -/
theorem isHeaderChar_of_isHeaderText {c : Char} (text : isHeaderText c = true) :
    isHeaderChar c = true := by
  simp only [isHeaderText, isHeaderChar, Bool.or_eq_true, Bool.and_eq_true, decide_eq_true_eq,
    beq_iff_eq, bne_iff_ne] at text ⊢
  exact text.imp_left fun visible => ⟨visible.1, by omega⟩

/-! ## Addresses -/

/-- The path and the query of an address, with their escapes. -/
structure Target where
  path : List Char
  query : List Char
  deriving DecidableEq

namespace Target

/-- The path and the query that characters begin with; an empty path stands for the root. -/
def ofPath (cs : List Char) : Target :=
  let plain := cs.takeWhile (· != '#')
  let path := plain.takeWhile (· != '?')
  ⟨if path.isEmpty then ['/'] else path, (plain.dropWhile (· != '?')).drop 1⟩

/-- The path and the query of an address. An address is a path, or a star alone, or a scheme with
`//` after it and a host before the path, or a host alone, which has no path at all. -/
def ofText (s : String) : Target :=
  match s.toList with
  | '/' :: cs => ofPath ('/' :: cs)
  | ['*'] => ⟨['*'], []⟩
  | cs =>
      match cs.dropWhile (· != ':') with
      | ':' :: '/' :: '/' :: rest =>
          ofPath (rest.dropWhile fun c => c != '/' && c != '?' && c != '#')
      | _ => ⟨[], []⟩

end Target

/-! ## Requests -/

/-- A request; the names of its headers are in lower case. -/
structure Request where
  method : String
  target : Target
  headers : List (String × String)
  body : List UInt8
  deriving DecidableEq

namespace Request

/-- A request with the names of its headers as they were written. -/
def of (method uri : String) (headers : List (String × String)) (body : List UInt8) : Request :=
  ⟨method, Target.ofText uri, headers.map fun h => (Text.asciiLower h.1, h.2), body⟩

/-- The value of the first header with a name. -/
def header? (r : Request) (name : String) : Option String :=
  r.headers.lookup name

/-- The value of the first header with a name, if that is plain text. -/
def headerText? (r : Request) (name : String) : Option String :=
  (r.header? name).filter fun v => v.toList.all isHeaderText

end Request

/-! ## Responses -/

/-- The content of a response. -/
inductive Body where
  | empty
  | json (value : Json)
  | lines (ls : List String)
  /-- A text of no declared media type. -/
  | plain (s : String)

namespace Body

/-- The text that is sent. -/
def text : Body → String
  | .empty => ""
  | .json value => value.render
  | .lines ls => String.intercalate "\n" ls
  | .plain s => s

/-- The media type of a content that has one. -/
def mediaType? : Body → Option String
  | .empty => none
  | .json _ => some "application/json"
  | .lines _ => some "text/plain; charset=utf-8"
  | .plain _ => none

end Body

/-- A response; the names of its headers are in lower case. -/
structure Response where
  status : Nat
  headers : List (String × String)
  body : Body

namespace Response

/-- A response with the media type of its content as its one header. -/
def of (status : Nat) (body : Body) : Response :=
  ⟨status, (body.mediaType?.map fun m => ("content-type", m)).toList, body⟩

/-- A response with a header in place of all others of its name. -/
def withHeader (r : Response) (name value : String) : Response :=
  { r with headers := r.headers.filter (fun h => h.1 != name) ++ [(name, value)] }

/-- A response with headers, each in place of all others of its name. -/
def withHeaders (r : Response) (headers : List (String × String)) : Response :=
  headers.foldl (fun r h => r.withHeader h.1 h.2) r

/-- A response without its content. -/
def withoutBody (r : Response) : Response :=
  { r with body := .empty }

@[simp] theorem status_of (status : Nat) (body : Body) : (of status body).status = status := rfl

@[simp] theorem status_withHeader (r : Response) (name value : String) :
    (r.withHeader name value).status = r.status := rfl

@[simp] theorem status_withHeaders (r : Response) (headers : List (String × String)) :
    (r.withHeaders headers).status = r.status := by
  induction headers generalizing r with
  | nil => rfl
  | cons h headers ih => exact ih (r.withHeader h.1 h.2)

@[simp] theorem status_withoutBody (r : Response) : r.withoutBody.status = r.status := rfl

@[simp] theorem body_withHeader (r : Response) (name value : String) :
    (r.withHeader name value).body = r.body := rfl

@[simp] theorem body_withHeaders (r : Response) (headers : List (String × String)) :
    (r.withHeaders headers).body = r.body := by
  induction headers generalizing r with
  | nil => rfl
  | cons h headers ih => exact ih (r.withHeader h.1 h.2)

/-- Of two values for a header the later one stays. -/
@[simp] theorem withHeader_withHeader (r : Response) (name first second : String) :
    (r.withHeader name first).withHeader name second = r.withHeader name second := by
  simp [withHeader]

end Response

end StudyHall
