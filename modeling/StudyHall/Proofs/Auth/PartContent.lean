import StudyHall.Auth.Header
import StudyHall.Auth.SideClaims
import StudyHall.Proofs.Json.Record
import StudyHall.Proofs.Wire.Name

/-!
# What the parts of a token say

The readers of headers and claims look up names in an object. A name that they look up stands in it
once, so there is no second value that another reader could take instead: what they have read can be
said by the list of all values under the name.

## Main results

* `valuesOf_of_record?` — the values under a name of a record are the one that a lookup finds.
* `algorithm_of_isTokenHeader` — a header names its algorithm once.
* `Claims.standIn_of_ofJson?` — claims stand in the object that they were read from, each once.
-/

namespace StudyHall

open Json

/-! ## Values under a name -/

theorem valuesOf_cons (name : String) (field : Option String × Json)
    (fields : List (Option String × Json)) :
    valuesOf name (field :: fields) =
      if field.1 == some name then field.2 :: valuesOf name fields else valuesOf name fields := by
  unfold valuesOf
  rw [List.filterMap_cons]
  split
  · next skipped =>
      split at skipped
      · cases skipped
      · next other => rw [if_neg other]
  · next value taken =>
      split at taken
      · next same =>
          cases taken
          rw [if_pos same]
      · cases taken

theorem mem_valuesOf {name : String} {value : Json} {fields : List (Option String × Json)} :
    value ∈ valuesOf name fields ↔ (some name, value) ∈ fields := by
  simp only [valuesOf, List.mem_filterMap, Prod.exists]
  constructor
  · rintro ⟨key, v, mem, found⟩
    split at found
    · next same =>
        cases found
        exact beq_iff_eq.mp same ▸ mem
    · cases found
  · intro mem
    exact ⟨some name, value, mem, by simp⟩

theorem length_valuesOf (name : String) (fields : List (Option String × Json)) :
    (valuesOf name fields).length = (fields.filterMap Prod.fst).count name := by
  induction fields with
  | nil => rfl
  | cons field fields ih =>
      obtain ⟨key, value⟩ := field
      rw [valuesOf_cons]
      cases key with
      | none => simpa using ih
      | some key =>
          by_cases same : key = name
          · simp [same, ih]
          · simp [same, ih]

/-- Where no name stands twice, the values under a name are the one that a lookup finds. -/
theorem values_of_nodup {fields : List (String × Json)} (once : (fields.map Prod.fst).Nodup)
    (name : String) :
    (fields.filter fun f => f.1 == name).map Prod.snd = (fields.lookup name).toList := by
  induction fields with
  | nil => rfl
  | cons field fields ih =>
      obtain ⟨key, value⟩ := field
      simp only [List.map_cons, List.nodup_cons, List.mem_map] at once
      rw [List.lookup_cons, List.filter_cons]
      by_cases same : key = name
      · subst same
        have rest : fields.filter (fun f => f.1 == key) = [] := by
          rw [List.filter_eq_nil_iff]
          intro f hf eq
          exact once.1 ⟨f, hf, beq_iff_eq.mp eq⟩
        simp [rest]
      · have other : (name == key) = false := beq_false_of_ne (Ne.symm same)
        simp [same, other, ih once.2]

theorem valuesOf_of_knownFields? {names : List String} {fields : List (Option String × Json)}
    {known : List (String × Json)} (read : knownFields? names fields = some known)
    {name : String} (mem : name ∈ names) :
    valuesOf name fields = (known.filter fun f => f.1 == name).map Prod.snd := by
  induction fields generalizing known with
  | nil =>
      cases read
      rfl
  | cons field fields ih =>
      obtain ⟨key, value⟩ := field
      cases key with
      | none => cases read
      | some key =>
          unfold knownFields? at read
          split at read
          · next rest hrest =>
              cases read
              rw [valuesOf_cons, ih hrest]
              by_cases same : key = name
              · subst same
                simp [mem]
              · by_cases own : key ∈ names
                · simp [same, own]
                · simp [same, own]
          · cases read

/-- The values under a name of a record are the one that a lookup finds. -/
theorem valuesOf_of_record? {names : List String} {fields : List (Option String × Json)}
    {r : Json.Record} (read : (Json.object fields).record? names = some r) {name : String}
    (mem : name ∈ names) : valuesOf name fields = (r.fields.lookup name).toList := by
  simp only [Json.record?] at read
  cases found : knownFields? names fields with
  | none =>
      rw [found] at read
      cases read
  | some known =>
      simp only [found] at read
      split at read
      · next once =>
          cases read
          rw [valuesOf_of_knownFields? found mem, values_of_nodup once]
      · cases read

/-! ## Headers -/

/-- A header names its algorithm once. -/
theorem algorithm_of_isTokenHeader {parameters : List (Option String × Json)}
    (valid : isTokenHeader (.object parameters) = true) :
    ∃ algorithm, valuesOf "alg" parameters = [algorithm] ∧ algorithm.name? = some "HS256" := by
  simp only [isTokenHeader, Bool.and_eq_true, List.all_eq_true, List.contains_iff_mem,
    decide_eq_true_eq] at valid
  obtain ⟨⟨typed, given⟩, once⟩ := valid
  have single : (valuesOf "alg" parameters).length = 1 := by
    rw [length_valuesOf]
    have count := once.count (a := "alg")
    rw [if_pos given, List.count_filter (by decide)] at count
    exact count
  obtain ⟨algorithm, only⟩ := List.length_eq_one_iff.mp single
  have mem : (some "alg", algorithm) ∈ parameters := mem_valuesOf.mp (by rw [only]; simp)
  have named : algorithm.name? == some "HS256" := by simpa [isHeaderField] using typed _ mem
  exact ⟨algorithm, only, beq_iff_eq.mp named⟩

/-! ## Claims -/

/-- Claims stand in the fields of an object: each of them once, but for the exam, which may be
missing or `null`. What else stands there does not matter. -/
structure Claims.StandIn (c : Claims) (fields : List (Option String × Json)) : Prop where
  userId : valuesOf "userId" fields = [.text c.userId]
  role : ∃ role, valuesOf "role" fields = [role] ∧ role.name? = some c.role.code
  exam : ∀ e, c.exam = some e →
    ∃ exam, valuesOf "exam" fields = [exam] ∧ exam.name? = some e.code
  noExam : c.exam = none → valuesOf "exam" fields = [] ∨ valuesOf "exam" fields = [.null]
  issuer : valuesOf "iss" fields = [.text c.issuer]
  issuedAt : valuesOf "iat" fields = [.int c.issuedAt]
  expiresAt : valuesOf "exp" fields = [.int c.expiresAt]

theorem Claims.standIn_of_ofJson? {c : Claims} {fields : List (Option String × Json)}
    (read : Claims.ofJson? (.object fields) = some c) : c.StandIn fields := by
  simp only [Claims.ofJson?, Option.bind_eq_bind, Option.bind_eq_some_iff, Option.some.injEq,
    Record.required_eq_some_iff,
    Record.optionalOrMissing_eq_some_iff (show Exam.ofJson? .null = none from rfl)] at read
  obtain ⟨r, record, userId, ⟨_, foundUser, isUser⟩, role, ⟨roleValue, foundRole, isRole⟩, exam,
    foundExam, issuer, ⟨_, foundIssuer, isIssuer⟩, issuedAt, ⟨_, foundIssued, isIssued⟩, expiresAt,
    ⟨_, foundExpires, isExpires⟩, rfl⟩ := read
  have under {name : String} (mem : name ∈ ["userId", "role", "exam", "iss", "iat", "exp"]) :
      valuesOf name fields = (r.fields.lookup name).toList := valuesOf_of_record? record mem
  refine ⟨?_, ?_, ?_, ?_, ?_, ?_, ?_⟩
  · rw [under (by decide), foundUser, text?_eq_some_iff.mp isUser]
    rfl
  · have named := Role.ofJson?_eq_some_iff.mp isRole
    rw [Role.wireName_eq_code] at named
    rw [under (by decide), foundRole]
    exact ⟨roleValue, rfl, named⟩
  · rintro e rfl
    obtain ⟨absent, -⟩ | ⟨examValue, e', found, isExam, same⟩ := foundExam
    · cases absent
    · cases same
      have named := Exam.ofJson?_eq_some_iff.mp isExam
      rw [Exam.wireName_eq_code] at named
      rw [under (by decide), found]
      exact ⟨examValue, rfl, named⟩
  · rintro rfl
    obtain ⟨-, missing | null⟩ | ⟨_, _, _, _, same⟩ := foundExam
    · rw [under (by decide), missing]
      exact .inl rfl
    · rw [under (by decide), null]
      exact .inr rfl
    · cases same
  · rw [under (by decide), foundIssuer, text?_eq_some_iff.mp isIssuer]
    rfl
  · rw [under (by decide), foundIssued, int_of_intIn? isIssued]
    rfl
  · rw [under (by decide), foundExpires, int_of_intIn? isExpires]
    rfl

end StudyHall
