import StudyHall.Auth.SideClaims
import StudyHall.Proofs.Json.Record

/-!
# Claims read back

The claims of a token are read back from the JSON they are written in, as long as both times are
numbers of 64 bits. Nothing beside them is found in it: no audience, no start of validity and no
subject.

## Main results

* `Claims.ofJson?_toJson` — reading undoes writing.
* `Payload.ofJson?_toJson` — the payload of a signed token is its claims and no audience.
-/

namespace StudyHall

open Text

/-! ## Codes -/

theorem Role.ofJson?_toJson (r : Role) : Role.ofJson? r.toJson = some r := by
  cases r <;> decide +kernel

theorem Exam.ofJson?_toJson (e : Exam) : Exam.ofJson? e.toJson = some e := by
  cases e <;> decide +kernel

/-! ## Claims -/

/-- A time that can be written into a token and read back. -/
def isInt64 (i : Int) : Prop :=
  -maxInt64 - 1 ≤ i ∧ i ≤ maxInt64

namespace Claims

variable {c : Claims}

/-- The claims in the order in which they are written. -/
def fields (c : Claims) : List (String × Json) :=
  [("userId", .text c.userId), ("role", c.role.toJson)]
    ++ Json.field? "exam" (c.exam.map Exam.toJson)
    ++ [("iss", .text c.issuer), ("iat", .int c.issuedAt), ("exp", .int c.expiresAt)]

theorem toJson_eq (c : Claims) : c.toJson = Json.ofFields c.fields := rfl

/-- The names of all claims, in order. -/
def names : List String := ["userId", "role", "exam", "iss", "iat", "exp"]

theorem names_fields (c : Claims) : (c.fields.map Prod.fst).Sublist names := by
  unfold fields
  cases c.exam with
  | none =>
      have rest := (List.Sublist.refl ["iss", "iat", "exp"]).cons "exam"
      exact (rest.cons_cons "role").cons_cons "userId"
  | some e => exact List.Sublist.refl _

theorem readable_toJson (c : Claims) : Json.Readable c.toJson := by
  rw [toJson_eq]
  refine Json.Readable.ofFields fun f hf => ?_
  simp only [fields, Json.field?, List.mem_append, List.mem_cons, List.not_mem_nil, or_false] at hf
  rcases hf with ((rfl | rfl) | hf) | rfl | rfl | rfl
  · exact Json.Readable.text _
  · exact Json.Readable.text _
  · cases exam : c.exam with
    | none =>
        rw [exam] at hf
        cases hf
    | some e =>
        rw [exam] at hf
        cases List.mem_singleton.mp hf
        exact Json.Readable.text _
  · exact Json.Readable.text _
  · exact Json.Readable.int _
  · exact Json.Readable.int _

/-- The claims as a record. -/
def record (c : Claims) : Json.Record := ⟨c.fields, false⟩

theorem record?_toJson (c : Claims) : c.toJson.record? names = some c.record :=
  Json.record?_ofFields c.names_fields (by decide +kernel)

/-- What stands under each name. -/
theorem lookup_record (c : Claims) :
    c.record.fields.lookup "userId" = some (.text c.userId)
      ∧ c.record.fields.lookup "role" = some c.role.toJson
      ∧ c.record.fields.lookup "exam" = c.exam.map Exam.toJson
      ∧ c.record.fields.lookup "iss" = some (.text c.issuer)
      ∧ c.record.fields.lookup "iat" = some (.int c.issuedAt)
      ∧ c.record.fields.lookup "exp" = some (.int c.expiresAt) := by
  unfold record fields
  cases c.exam with
  | none => simp [Json.field?, List.lookup_cons]
  | some e => simp [Json.field?, List.lookup_cons]

theorem exam_record (c : Claims) :
    c.record.optionalOrMissing "exam" Exam.ofJson? = some c.exam := by
  obtain ⟨-, -, given, -⟩ := c.lookup_record
  cases exam : c.exam with
  | none =>
      rw [exam] at given
      exact Json.Record.optionalOrMissing_of_missing given
  | some e =>
      rw [exam] at given
      have value : e.toJson ≠ .null := by simp [Exam.toJson, Json.text]
      rw [Json.Record.optionalOrMissing_of_given given value, Exam.ofJson?_toJson]
      rfl

/-- Claims are read back from the JSON they are written in. -/
theorem ofJson?_toJson (issued : isInt64 c.issuedAt) (expires : isInt64 c.expiresAt) :
    Claims.ofJson? c.toJson = some c := by
  have record := c.record?_toJson
  obtain ⟨userId, role, -, issuer, issuedAt, expiresAt⟩ := c.lookup_record
  have iat : (Json.int c.issuedAt).int64? = some c.issuedAt := Json.intIn?_int issued.1 issued.2
  have exp : (Json.int c.expiresAt).int64? = some c.expiresAt :=
    Json.intIn?_int expires.1 expires.2
  unfold names at record
  simp only [Claims.ofJson?, record, Json.Record.required_of_given userId,
    Json.Record.required_of_given role, Json.Record.required_of_given issuer,
    Json.Record.required_of_given issuedAt, Json.Record.required_of_given expiresAt,
    exam_record, Role.ofJson?_toJson, iat, exp, Json.text?, Json.text, Option.bind_eq_bind,
    Option.bind_some]

end Claims

/-! ## Payloads -/

/-- The payload of a signed token is its claims and no audience. -/
theorem Payload.ofJson?_toJson {c : Claims} (issued : isInt64 c.issuedAt)
    (expires : isInt64 c.expiresAt) : Payload.ofJson? c.toJson = some ⟨c, false⟩ := by
  have absent : ∀ name, name ∉ Claims.names →
      valuesOf name (c.fields.map fun f => (some f.1, f.2)) = [] := by
    intro name other
    unfold valuesOf
    rw [List.filterMap_eq_nil_iff]
    intro f hf
    obtain ⟨field, mem, rfl⟩ := List.mem_map.mp hf
    have known := c.names_fields.subset (List.mem_map_of_mem (f := Prod.fst) mem)
    have differ : field.1 ≠ name := fun eq => other (eq ▸ known)
    simp [differ]
  have aud := absent "aud" (by decide +kernel)
  have nbf := absent "nbf" (by decide +kernel)
  have sub := absent "sub" (by decide +kernel)
  have claims := Claims.ofJson?_toJson issued expires
  rw [Claims.toJson_eq] at claims ⊢
  unfold Json.ofFields at claims ⊢
  simp only [Payload.ofJson?, isPassable, aud, nbf, sub, claims, Bool.and_self, if_true,
    Option.map_some, List.any_nil]

end StudyHall
