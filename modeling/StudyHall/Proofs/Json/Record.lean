import StudyHall.Json.Record
import StudyHall.Proofs.Json.RoundTrip

/-!
# Records read back

An object that was built of the fields of a record gives them all, and a whole number is read back
within any bounds that hold it. The other way round, a text or a whole number that has been read was
written in one way.

## Main results

* `record?_ofFields` — the fields of an object in the order of the record, of which some may be
  left out.
* `Readable.ofFields` — an object is readable when its fields are.
* `intIn?_int` — a whole number.
* `text?_eq_some_iff`, `int_of_intIn?` — what a text or a whole number was read from.
-/

namespace StudyHall.Json

open Text

/-! ## Objects -/

theorem knownFields?_of_known {names : List String} {fields : List (String × Json)}
    (known : ∀ f ∈ fields, f.1 ∈ names) :
    knownFields? names (fields.map fun f => (some f.1, f.2)) = some fields := by
  induction fields with
  | nil => rfl
  | cons field fields ih =>
      have first := known field List.mem_cons_self
      rw [List.map_cons, knownFields?, ih fun f hf => known f (List.mem_cons_of_mem field hf)]
      simp only [List.contains_eq_mem, decide_eq_true_eq, if_pos first]

/-- An object gives the fields that it was built of, if they stand in the order of the record. -/
theorem record?_ofFields {names : List String} {fields : List (String × Json)}
    (order : (fields.map Prod.fst).Sublist names) (once : names.Nodup) :
    (ofFields fields).record? names = some ⟨fields, false⟩ := by
  have known : ∀ f ∈ fields, f.1 ∈ names :=
    fun f hf => order.subset (List.mem_map.mpr ⟨f, hf, rfl⟩)
  simp only [ofFields, record?, knownFields?_of_known known, if_pos (order.nodup once)]

namespace Record

variable {α : Type} {r : Record} {name : String} {read? : Json → Option α}

theorem required_of_given {j : Json} (h : r.fields.lookup name = some j) :
    r.required name read? = read? j := by
  simp only [required, h]

theorem optionalOrMissing_of_given {j : Json} (h : r.fields.lookup name = some j)
    (value : j ≠ .null) : r.optionalOrMissing name read? = (read? j).map some := by
  simp only [optionalOrMissing, h]

theorem optionalOrMissing_of_missing (h : r.fields.lookup name = none) :
    r.optionalOrMissing name read? = some none := by
  simp only [optionalOrMissing, h]

end Record

/-! ## Readable values -/

theorem Readable.text (s : String) : Readable (.text s) :=
  Readable.string (some s)

theorem Readable.int (i : Int) : Readable (.int i) :=
  Readable.number _

/-- An object is readable when its fields are. -/
theorem Readable.ofFields {fields : List (String × Json)} (h : ∀ f ∈ fields, Readable f.2) :
    Readable (.ofFields fields) := by
  refine Readable.object fun f hf => ?_
  obtain ⟨field, mem, rfl⟩ := List.mem_map.mp hf
  exact h field mem

/-! ## Numbers -/

theorem int?_whole (i : Int) : (Number.whole (decide (i < 0)) i.natAbs).int? = some i := by
  by_cases negative : i < 0
  · obtain ⟨m, rfl⟩ : ∃ m : Nat, i = -((m + 1 : Nat) : Int) := ⟨i.natAbs - 1, by omega⟩
    simp only [negative, decide_true, Int.natAbs_neg, Int.natAbs_natCast, Number.int?]
  · simp only [negative, decide_false, Number.int?, Option.some.injEq]
    omega

/-- A whole number is read back within bounds that hold it. -/
theorem intIn?_int {low high i : Int} (hl : low ≤ i) (hh : i ≤ high) :
    (int i).intIn? low high = some i := by
  simp only [int, intIn?, int?_whole, if_pos (And.intro hl hh)]

/-! ## What was read -/

theorem text?_eq_some_iff {j : Json} {s : String} : j.text? = some s ↔ j = .text s := by
  constructor
  · intro h
    unfold text? at h
    split at h
    · cases h
      rfl
    · cases h
  · rintro rfl
    rfl

theorem int?_eq_some {n : Number} {i : Int} (h : n.int? = some i) :
    n = .whole (decide (i < 0)) i.natAbs := by
  unfold Number.int? at h
  split at h
  · next m =>
      cases h
      simp
  · cases h
  · next m positive =>
      cases h
      have negative : m ≠ 0 := positive
      simp only [Number.whole.injEq, true_eq_decide_iff, Int.natAbs_neg, Int.natAbs_natCast,
        and_true]
      omega
  · cases h

/-- A whole number is read from the one way to write it. -/
theorem int_of_intIn? {low high i : Int} {j : Json} (h : j.intIn? low high = some i) :
    j = .int i := by
  unfold intIn? at h
  split at h
  · next n =>
      split at h
      · next value found =>
          split at h
          · cases h
            rw [int?_eq_some found, int]
          · cases h
      · cases h
  · cases h

theorem Record.required_eq_some_iff {α : Type} {r : Record} {name : String}
    {read? : Json → Option α} {a : α} :
    r.required name read? = some a ↔ ∃ j, r.fields.lookup name = some j ∧ read? j = some a := by
  unfold Record.required
  cases r.fields.lookup name with
  | none => simp
  | some j => simp

theorem Record.optionalOrMissing_eq_some_iff {α : Type} {r : Record} {name : String}
    {read? : Json → Option α} {a : Option α} (notNull : read? .null = none) :
    r.optionalOrMissing name read? = some a ↔
      (a = none ∧ (r.fields.lookup name = none ∨ r.fields.lookup name = some .null))
        ∨ ∃ j b, r.fields.lookup name = some j ∧ read? j = some b ∧ a = some b := by
  unfold Record.optionalOrMissing
  split
  · next given => simp [given, notNull, eq_comm]
  · next j value given =>
      have other : j ≠ .null := value
      simp [given, other, eq_comm]
  · next missing => simp [missing, eq_comm]

theorem code?_eq_some_iff {α : Type} {ofName? : String → Option α} {j : Json} {a : α} :
    j.code? ofName? = some a ↔ ∃ s, j.name? = some s ∧ ofName? s = some a := by
  unfold code?
  cases j.name? with
  | none => simp
  | some s => simp

end StudyHall.Json
