import StudyHall.Wire.Codes

/-!
# Claims of a token

What a token says about its bearer, in JSON. The exam is left out where there is none; the times
are whole seconds since 1970-01-01.
-/

namespace StudyHall

/-- The claims of a token. -/
structure Claims where
  userId : String
  role : Role
  exam : Option Exam
  issuer : String
  issuedAt : Int
  expiresAt : Int
  deriving DecidableEq

/-- Claims in JSON. -/
def Claims.toJson (c : Claims) : Json :=
  Json.ofFields
    ([("userId", .text c.userId), ("role", c.role.toJson)]
      ++ Json.field? "exam" (c.exam.map Exam.toJson)
      ++ [("iss", .text c.issuer), ("iat", .int c.issuedAt), ("exp", .int c.expiresAt)])

/-- The claims that a JSON value denotes. -/
def Claims.ofJson? (j : Json) : Option Claims := do
  let r ← j.record? ["userId", "role", "exam", "iss", "iat", "exp"]
  some
    { userId := ← r.required "userId" Json.text?
      role := ← r.required "role" Role.ofJson?
      exam := ← r.optionalOrMissing "exam" Exam.ofJson?
      issuer := ← r.required "iss" Json.text?
      issuedAt := ← r.required "iat" Json.int64?
      expiresAt := ← r.required "exp" Json.int64? }

end StudyHall
