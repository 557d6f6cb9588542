import StudyHall.Proofs.Auth.Claims
import StudyHall.Proofs.Calendar.Timestamp
import StudyHall.Proofs.Uuid

/-!
# What is written and read without loss

A value is written faithfully in JSON when its JSON is readable, so that the text gives the JSON
back, and when its reader makes the value of that JSON. For a record both follow from its fields:
they stand in the order of the reader's names, some may be left out, and each is read back by
itself.

The lemmas about single fields are simp lemmas, so that the proof for a record is to name the
order of its fields and to simplify.

## Main results

* `Faithful.parse?_render` — what is written faithfully is read back from its text.
* `Faithful.ofRecord` — a record of faithfully written fields.
* `Record.required_eq`, `Record.optional_eq` — what a field gives, by what stands under its name.
-/

namespace StudyHall

open Text

namespace Json

/-- A value whose JSON is read back from its text and which is read back from its JSON. -/
structure Faithful {α : Type} (toJson : α → Json) (ofJson? : Json → Option α) (a : α) : Prop where
  readable : Readable (toJson a)
  reads : ofJson? (toJson a) = some a

variable {α : Type} {toJson : α → Json} {ofJson? : Json → Option α} {a : α}

/-- What is written faithfully is read back from its text. -/
theorem Faithful.parse?_render (h : Faithful toJson ofJson? a) :
    (parse? (toJson a).render).bind ofJson? = some a := by
  rw [Json.parse?_render h.readable, Option.bind_some, h.reads]

/-- A record of readable fields in the order of its names is written faithfully, if its reader
makes it of those fields. -/
theorem Faithful.ofRecord {names : List String} {read? : Record → Option α}
    {fields : List (String × Json)} (reader : ∀ j, ofJson? j = (j.record? names).bind read?)
    (writer : toJson a = ofFields fields) (order : (fields.map Prod.fst).Sublist names)
    (once : names.Nodup) (readable : ∀ f ∈ fields, Readable f.2)
    (reads : read? ⟨fields, false⟩ = some a) : Faithful toJson ofJson? a where
  readable := by
    rw [writer]
    exact Readable.ofFields readable
  reads := by
    rw [reader, writer, record?_ofFields order once, Option.bind_some, reads]

/-! ## Fields -/

@[simp]
theorem forall_mem_field? {p : String × Json → Prop} {name : String} {value : Option Json} :
    (∀ f ∈ field? name value, p f) ↔ ∀ j, value = some j → p (name, j) := by
  cases value <;> simp [field?]

theorem names_field? (name : String) (value : Option Json) :
    ((field? name value).map Prod.fst).Sublist [name] := by
  cases value with
  | none => exact List.nil_sublist _
  | some j => exact List.Sublist.refl _

@[simp]
theorem lookup_field?_self (name : String) (value : Option Json) :
    (field? name value).lookup name = value := by
  cases value <;> simp [field?]

@[simp]
theorem lookup_field?_of_ne {name other : String} (value : Option Json) (h : other ≠ name) :
    (field? name value).lookup other = none := by
  have differ : (other == name) = false := beq_eq_false_iff_ne.mpr h
  cases value <;> simp [field?, List.lookup_cons, differ]

/-- What an optional field gives by name, from what stands under its name. -/
def optional? (read? : Json → Option α) : Option Json → Option (Option α)
  | none => some none
  | some .null => some none
  | some j => (read? j).map some

theorem Record.required_eq {r : Record} {name : String} {read? : Json → Option α} :
    r.required name read? = (r.fields.lookup name).bind read? := by
  unfold Record.required
  cases r.fields.lookup name <;> rfl

theorem Record.optional_eq {fields : List (String × Json)} {name : String}
    {read? : Json → Option α} :
    (⟨fields, false⟩ : Record).optional name read? = optional? read? (fields.lookup name) := by
  unfold Record.optional optional?
  cases fields.lookup name with
  | none => rfl
  | some j => cases j <;> rfl

/-- An optional field is read back whether it is there or not, unless its values can be `null`. -/
theorem optional?_map {value : Option α} (reads : ∀ x, ofJson? (toJson x) = some x)
    (notNull : ∀ x, toJson x ≠ .null) : optional? ofJson? (value.map toJson) = some value := by
  cases value with
  | none => rfl
  | some x => simp [optional?, reads, notNull]

/-! ## Values of fields -/

@[simp]
theorem readable_text (s : String) : Readable (.text s) :=
  Readable.text s

@[simp]
theorem text?_text (s : String) : (text s).text? = some s := rfl

@[simp]
theorem optional?_text (value : Option String) :
    optional? text? (value.map text) = some value :=
  optional?_map text?_text fun _ => Json.noConfusion

@[simp]
theorem readable_bool (b : Bool) : Readable (.bool b) :=
  Readable.bool b

@[simp]
theorem bool?_bool (b : Bool) : (bool b).bool? = some b := rfl

@[simp]
theorem readable_int (i : Int) : Readable (.int i) :=
  Readable.int i

theorem int64?_int {i : Int} (h : isInt64 i) : (int i).int64? = some i :=
  intIn?_int h.1 h.2

/-- A count is written as the whole number that it is. -/
theorem nat_eq_int (n : Nat) : nat n = int n := by
  simp [nat, int]

@[simp]
theorem readable_nat (n : Nat) : Readable (.nat n) :=
  Readable.number _

theorem word64?_nat {n : Nat} (h : n ≤ maxWord64) : (nat n).word64? = some n := by
  unfold word64?
  rw [nat_eq_int, intIn?_int (by omega) (by omega)]
  rfl

@[simp]
theorem readable_ofInt32 (i : Int32) : Readable (ofInt32 i) :=
  Readable.int _

@[simp]
theorem toInt32?_ofInt32 (i : Int32) : toInt32? (ofInt32 i) = some i := by
  have low : -(maxInt32 : Int) - 1 ≤ i.toInt := i.le_toInt
  have high : i.toInt < (maxInt32 : Int) + 1 := i.toInt_lt
  unfold toInt32? ofInt32 int32?
  rw [intIn?_int low (by omega), Option.map_some, Int32.ofInt_toInt]

@[simp]
theorem readable_ofInt64 (i : Int64) : Readable (ofInt64 i) :=
  Readable.int _

@[simp]
theorem toInt64?_ofInt64 (i : Int64) : toInt64? (ofInt64 i) = some i := by
  have low : -(maxInt64 : Int) - 1 ≤ i.toInt := i.le_toInt
  have high : i.toInt < (maxInt64 : Int) + 1 := i.toInt_lt
  unfold toInt64? ofInt64
  rw [int64?_int ⟨low, by omega⟩, Option.map_some, Int64.ofInt_toInt]

@[simp]
theorem readable_ofWord32 (n : UInt32) : Readable (ofWord32 n) :=
  Readable.number _

@[simp]
theorem toWord32?_ofWord32 (n : UInt32) : toWord32? (ofWord32 n) = some n := by
  have high : n.toNat < maxWord32 + 1 := n.toNat_lt
  unfold toWord32? ofWord32 word32?
  rw [nat_eq_int, intIn?_int (by omega) (by omega), Option.map_some, Option.map_some,
    Int.toNat_natCast, UInt32.ofNat_toNat]

/-- A list is written faithfully when its items are. -/
theorem Faithful.ofList {xs : List α} (h : ∀ x ∈ xs, Faithful toJson ofJson? x) :
    Faithful (ofList toJson) (list? ofJson?) xs where
  readable := by
    refine Readable.array fun j hj => ?_
    obtain ⟨x, mem, rfl⟩ := List.mem_map.mp hj
    exact (h x mem).readable
  reads := by
    unfold Json.ofList list?
    induction xs with
    | nil => rfl
    | cons x xs ih =>
        have first := (h x List.mem_cons_self).reads
        have rest := ih fun y hy => h y (List.mem_cons_of_mem x hy)
        simp only [List.map_cons, List.mapM_cons, first, rest]
        rfl

/-- A list of texts. -/
theorem faithful_texts (xs : List String) : Faithful (Json.ofList text) (list? text?) xs :=
  Faithful.ofList fun x _ => ⟨readable_text x, text?_text x⟩

end Json

/-! ## Codes, identifiers and times -/

attribute [simp] Exam.ofJson?_toJson Role.ofJson?_toJson

@[simp]
theorem OperatorRole.ofJson?_toJson (r : OperatorRole) :
    OperatorRole.ofJson? r.toJson = some r := by
  cases r <;> decide

@[simp]
theorem OperatorStatus.ofJson?_toJson (t : OperatorStatus) :
    OperatorStatus.ofJson? t.toJson = some t := by
  cases t <;> decide

@[simp]
theorem Metric.ofJson?_toJson (m : Metric) : Metric.ofJson? m.toJson = some m := by
  cases m <;> decide

@[simp]
theorem Window.ofJson?_toJson (w : Window) : Window.ofJson? w.toJson = some w := by
  cases w <;> decide

@[simp]
theorem EventType.ofJson?_toJson (t : EventType) : EventType.ofJson? t.toJson = some t := by
  cases t <;> decide

@[simp]
theorem EventStatus.ofJson?_toJson (t : EventStatus) : EventStatus.ofJson? t.toJson = some t := by
  cases t
  decide

@[simp]
theorem Uuid.ofJson?_toJson (u : Uuid) : Uuid.ofJson? u.toJson = some u := by
  unfold Uuid.ofJson? Uuid.toJson
  rw [Json.text?_text, Option.bind_some, Uuid.parse?_toText]

@[simp]
theorem Instant.ofJson?_toJson (t : Instant) : Instant.ofJson? t.toJson = some t := by
  unfold Instant.ofJson? Instant.toJson
  rw [Json.text?_text, Option.bind_some, Instant.parse?_toText]

@[simp]
theorem Json.optional?_instant (value : Option Instant) :
    optional? Instant.ofJson? (value.map Instant.toJson) = some value :=
  optional?_map Instant.ofJson?_toJson fun _ => Json.noConfusion

end StudyHall
