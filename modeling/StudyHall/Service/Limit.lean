import StudyHall.Http.Message

/-!
# The limit on sign-ins

Before the sign-in of operators stands a limiter, which turns away a caller who comes too often. How
it tells one caller from another, how many requests are too many and how long it remembers them is
not settled here: each call brings along what the limiter makes of it. Either the limiter lets the
request pass and adds headers to the response, or it answers with a page of its own, which is plain
text of no declared media type. Of the limiter no more is known than the names of its headers and
the statuses of its page.

The sign-in is also made to wait before it responds. How long a response takes is not part of the
response, so nothing is said of this.
-/

namespace StudyHall

/-- The names of the headers in which the limiter speaks. -/
def limitHeaderNames : List String :=
  ["x-ratelimit-limit", "x-ratelimit-remaining", "x-ratelimit-after", "x-ratelimit-whitelisted",
    "retry-after"]

/-- The statuses with which the limiter turns a caller away: there were too many requests, or it
cannot tell who is calling. -/
def limitStatuses : List Nat := [429, 500]

/-- A page of the limiter. -/
structure LimitPage where
  status : Nat
  text : String
  /-- The caller is turned away for one of two reasons. -/
  known : status ∈ limitStatuses

/-- What the limiter makes of a request: the headers that it sets, and its page if it turns the
caller away. -/
structure Limit where
  headers : List (String × String)
  page? : Option LimitPage
  /-- The headers are the limiter's own. -/
  own : ∀ h ∈ headers, h.1 ∈ limitHeaderNames

/-- Nothing is made of a request. -/
def Limit.free : Limit := ⟨[], none, List.forall_mem_nil _⟩

/-- The page of the limiter as a response. -/
def LimitPage.response (p : LimitPage) : Response :=
  Response.of p.status (.plain p.text)

@[simp] theorem LimitPage.status_response (p : LimitPage) : p.response.status = p.status := rfl

@[simp] theorem LimitPage.body_response (p : LimitPage) : p.response.body = .plain p.text := rfl

end StudyHall
