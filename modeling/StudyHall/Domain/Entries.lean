/-!
# Entries under distinct keys

A list of entries in which no key stands twice is asked for the value under a key. The order of the
entries does not matter then: what is found is what is there.
-/

namespace StudyHall

variable {α β : Type} [BEq α] [LawfulBEq α] {entries : List (α × β)} {key : α} {value : β}

/-- Under distinct keys a value is found exactly if its entry is there. -/
theorem lookup_eq_some_iff_mem (distinct : (entries.map Prod.fst).Nodup) :
    entries.lookup key = some value ↔ (key, value) ∈ entries := by
  induction entries with
  | nil => simp
  | cons entry rest ih =>
      obtain ⟨first, held⟩ := entry
      obtain ⟨fresh, distinct⟩ := List.nodup_cons.mp distinct
      rw [List.lookup_cons, List.mem_cons, Prod.mk.injEq]
      by_cases same : key = first
      · subst same
        have absent : (key, value) ∉ rest := fun mem => fresh (List.mem_map.mpr ⟨_, mem, rfl⟩)
        rw [beq_self_eq_true]
        simp only [absent, true_and, or_false, Option.some.injEq, eq_comm]
      · rw [beq_false_of_ne same]
        simp only [same, false_and, false_or, ih distinct]

end StudyHall
