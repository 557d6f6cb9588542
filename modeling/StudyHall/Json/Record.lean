import StudyHall.Json.Basic

/-!
# Records in JSON

A record is written as an object of its named fields, or as an array of them in order. Names that
the record does not have are passed over; one of its own names may not stand twice. In an array
nothing may be left over, and fields may only be missing at the end.
-/

namespace StudyHall.Json

/-- The fields of a record that were given, by name. -/
structure Record where
  fields : List (String × Json)
  /-- Whether they were given by position, in an array. -/
  positional : Bool

/-- The named fields of an object that belong to a record, unless a name of the object is no text.
-/
def knownFields? (names : List String) : List (Option String × Json) → Option (List (String × Json))
  | [] => some []
  | (none, _) :: _ => none
  | (some k, v) :: fields =>
      match knownFields? names fields with
      | some known => some (if names.contains k then (k, v) :: known else known)
      | none => none

/-- The fields of a record with the given names. -/
def record? (names : List String) : Json → Option Record
  | .object fields =>
      match knownFields? names fields with
      | some known => if (known.map Prod.fst).Nodup then some ⟨known, false⟩ else none
      | none => none
  | .array items => if items.length ≤ names.length then some ⟨names.zip items, true⟩ else none
  | _ => none

namespace Record

variable {α : Type}

/-- A field that must be there. -/
def required (r : Record) (name : String) (read? : Json → Option α) : Option α :=
  match r.fields.lookup name with
  | some j => read? j
  | none => none

/-- A field that may be `null`, and may be missing unless the fields go by position. -/
def optional (r : Record) (name : String) (read? : Json → Option α) : Option (Option α) :=
  match r.fields.lookup name with
  | some .null => some none
  | some j => (read? j).map some
  | none => if r.positional then none else some none

/-- A field with a value of its own for when it is missing. -/
def defaulted (r : Record) (name : String) (value : α) (read? : Json → Option α) : Option α :=
  match r.fields.lookup name with
  | some j => read? j
  | none => some value

/-- A field that may be `null` and may be missing even at the end of an array. -/
def optionalOrMissing (r : Record) (name : String) (read? : Json → Option α) :
    Option (Option α) :=
  match r.fields.lookup name with
  | some .null => some none
  | some j => (read? j).map some
  | none => some none

end Record

end StudyHall.Json
