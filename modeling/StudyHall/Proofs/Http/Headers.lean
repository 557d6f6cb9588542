import StudyHall.Http.Message

/-!
# Headers by name

A response is looked at through what it says under one name. A header that is set replaces all
others of its name and leaves those of other names alone, so what a response says under a name is
decided by the last header of that name that was set, or else by the response itself.

A request is asked for the first value under a name, and what it says under other names has no part
in that.

## Main results

* `values_withHeader_self`, `values_withHeader_of_ne` — a header that is set.
* `values_withHeaders_of_notMem`, `values_withHeaders_of_mem` — several headers that are set.
* `values_of_of_ne` — a fresh response has a media type and no more.
* `header?_congr` — requests that differ in the headers of one name.
-/

namespace StudyHall

/-! ## Responses -/

namespace Response

variable {r : Response} {name other value : String}

/-- What a response says under a name. -/
def values (r : Response) (name : String) : List String :=
  (r.headers.filter fun h => h.1 == name).map Prod.snd

@[simp] theorem values_withHeader_self (r : Response) (name value : String) :
    (r.withHeader name value).values name = [value] := by
  have replaced : (r.headers.filter fun h => h.1 != name).filter (fun h => h.1 == name) = [] := by
    rw [List.filter_filter, List.filter_eq_nil_iff]
    intro h _ both
    simp at both
  unfold values withHeader
  simp only [List.filter_append, replaced, List.nil_append]
  simp

theorem values_withHeader_of_ne (different : other ≠ name) :
    (r.withHeader name value).values other = r.values other := by
  have kept : (r.headers.filter fun h => h.1 != name).filter (fun h => h.1 == other)
      = r.headers.filter fun h => h.1 == other := by
    rw [List.filter_filter]
    refine List.filter_congr fun h _ => ?_
    by_cases same : h.1 = other
    · simp [same, different]
    · simp [same]
  have apart : (name == other) = false := beq_false_of_ne different.symm
  unfold values withHeader
  simp only [List.filter_append, kept]
  simp [apart]

theorem withHeaders_nil (r : Response) : r.withHeaders [] = r := rfl

theorem withHeaders_cons (r : Response) (h : String × String) (headers : List (String × String)) :
    r.withHeaders (h :: headers) = (r.withHeader h.1 h.2).withHeaders headers := rfl

theorem withHeaders_append (r : Response) (first second : List (String × String)) :
    r.withHeaders (first ++ second) = (r.withHeaders first).withHeaders second := by
  unfold withHeaders
  rw [List.foldl_append]

/-- Headers that are set under other names do not show. -/
theorem values_withHeaders_of_notMem {headers : List (String × String)}
    (absent : name ∉ headers.map Prod.fst) :
    (r.withHeaders headers).values name = r.values name := by
  induction headers generalizing r with
  | nil => rfl
  | cons h headers ih =>
      simp only [List.map_cons, List.mem_cons, not_or] at absent
      rw [withHeaders_cons, ih absent.2, values_withHeader_of_ne absent.1]

/-- Of headers that are set under different names, each one shows as it is. -/
theorem values_withHeaders_of_mem {headers : List (String × String)} {h : String × String}
    (distinct : (headers.map Prod.fst).Nodup) (mem : h ∈ headers) :
    (r.withHeaders headers).values h.1 = [h.2] := by
  induction headers generalizing r with
  | nil => cases mem
  | cons first headers ih =>
      obtain ⟨absent, distinct⟩ := List.nodup_cons.mp distinct
      rw [withHeaders_cons]
      rcases List.mem_cons.mp mem with rfl | mem
      · rw [values_withHeaders_of_notMem absent, values_withHeader_self]
      · exact ih distinct mem

@[simp] theorem values_withoutBody (r : Response) (name : String) :
    r.withoutBody.values name = r.values name := rfl

/-- A fresh response has a media type and no more. -/
theorem values_of_of_ne {status : Nat} {body : Body} (different : name ≠ "content-type") :
    (Response.of status body).values name = [] := by
  unfold values Response.of
  cases body.mediaType? with
  | none => rfl
  | some m => simp [different.symm]

end Response

/-! ## Requests -/

/-- Values under one name are found among the others whatever stands under another name. -/
theorem lookup_filter_of_ne {β : Type} {key name : String} (different : key ≠ name)
    (pairs : List (String × β)) :
    (pairs.filter fun p => p.1 != name).lookup key = pairs.lookup key := by
  induction pairs with
  | nil => rfl
  | cons p rest ih =>
      by_cases dropped : p.1 = name
      · have apart : (key == p.1) = false := beq_false_of_ne (dropped ▸ different)
        rw [List.filter_cons_of_neg (by simp [dropped]), ih, List.lookup_cons, apart]
      · rw [List.filter_cons_of_pos (by simp [dropped]), List.lookup_cons, List.lookup_cons, ih]

/-- Requests that differ in the headers of one name say the same under all others. -/
theorem Request.header?_congr {r r' : Request} {name other : String}
    (same : r'.headers.filter (fun h => h.1 != name) = r.headers.filter fun h => h.1 != name)
    (different : other ≠ name) : r'.header? other = r.header? other := by
  unfold header?
  rw [← lookup_filter_of_ne different r'.headers, same, lookup_filter_of_ne different]

end StudyHall
