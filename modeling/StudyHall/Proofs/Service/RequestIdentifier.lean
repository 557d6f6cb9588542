import StudyHall.Proofs.Service.Launch
import StudyHall.Proofs.Service.Layers
import StudyHall.Proofs.Service.TwoRuns

/-!
# The identifier of a request

The outermost layer marks every response with one identifier: the one that the request brings, if
that is a plain text, or else one that is drawn. Nothing further in looks at the headers in which a
request brings an identifier, so these decide about the mark of the response and about nothing else.

## Main results

* `values_finish_identifier` — every response has one identifier.
* `readsLike_of_differsIn` — a request that brings another identifier reads like the first.
* `identifier_is_all_that_differs` — both for the whole service.
-/

namespace StudyHall

/-! ## Identifiers that are brought -/

/-- A text that is taken for an identifier: it is not empty and has visible ASCII characters, blanks
and tabs only. -/
def IsPlainIdentifier (v : String) : Prop :=
  v ≠ "" ∧ ∀ ch ∈ v.toList, (32 ≤ ch.toNat ∧ ch.toNat ≤ 126) ∨ ch = '\t'

theorem isPlainIdentifier_iff {v : String} :
    IsPlainIdentifier v ↔ v.toList.all isHeaderText = true ∧ (!v.isEmpty) = true := by
  have plain : ∀ ch : Char, isHeaderText ch = true ↔
      (32 ≤ ch.toNat ∧ ch.toNat ≤ 126) ∨ ch = '\t' := by
    intro ch
    simp only [isHeaderText, Bool.or_eq_true, Bool.and_eq_true, decide_eq_true_eq, beq_iff_eq]
    have bound : ch.toNat < 127 ↔ ch.toNat ≤ 126 := by omega
    rw [bound]
  simp only [IsPlainIdentifier, List.all_eq_true, plain, Bool.not_eq_true',
    String.isEmpty_eq_false_iff]
  exact And.comm

instance (v : String) : Decidable (IsPlainIdentifier v) :=
  decidable_of_iff _ isPlainIdentifier_iff.symm

/-- The identifier of a request: the first one that it brings if that is plain, or else the one that
is drawn. -/
theorem Call.identifier_eq (c : Call) :
    c.identifier =
      match c.request.header? requestIdName with
      | some v => if IsPlainIdentifier v then v else c.requestId.toText
      | none => c.requestId.toText := by
  unfold identifier Request.headerText?
  cases c.request.header? requestIdName with
  | none => rfl
  | some v =>
      rw [Option.filter_filter, Option.filter_some]
      by_cases plain : IsPlainIdentifier v
      · have taken := isPlainIdentifier_iff.mp plain
        simp only [taken.1, taken.2, Bool.and_self, if_true, if_pos plain]
      · have refused : (v.toList.all isHeaderText && !v.isEmpty) = false := by
          rw [← Bool.not_eq_true, Bool.and_eq_true]
          exact fun both => plain (isPlainIdentifier_iff.mpr both)
        simp only [refused, Bool.false_eq_true, if_false, if_neg plain]

/-! ## Responses -/

namespace Service

variable (s : Service)

/-- Every response has one identifier, that of its request. -/
theorem values_finish_identifier (c : Call) (r : Response) :
    (finish c r).values requestIdName = [c.identifier] := by
  unfold finish
  rw [Call.mark_eq, Response.values_withHeader_self]

theorem respond_identifier {c : Call} {st st' : State} {response : Response}
    {statements : List Statement} (answered : s.respond c st = some (response, statements, st')) :
    response.values requestIdName = [c.identifier] := by
  obtain ⟨v, rfl, -⟩ := s.respond_cases answered
  exact values_finish_identifier c v.response

end Service

/-! ## Requests that differ in the headers of one name -/

/-- A call that differs from another one in the headers of one name, and perhaps in the identifier
that is drawn for it. -/
structure Call.DiffersIn (name : String) (c c' : Call) : Prop where
  method : c'.request.method = c.request.method
  target : c'.request.target = c.request.target
  body : c'.request.body = c.request.body
  headers : c'.request.headers.filter (fun h => h.1 != name)
    = c.request.headers.filter fun h => h.1 != name
  now : c'.now = c.now
  database : c'.database = c.database
  operatorId : c'.operatorId = c.operatorId
  /-- The limiter does not read these headers. -/
  limit : c'.limit = c.limit

/-- A request that brings another identifier reads like the first. -/
theorem Call.readsLike_of_differsIn {c c' : Call} (alike : c.DiffersIn requestIdName c') :
    c.ReadsLike c' where
  method := alike.method
  target := alike.target
  origin := Request.header?_congr alike.headers (by decide)
  limit := alike.limit
  body := alike.body
  authorization := Request.header?_congr alike.headers (by decide)
  contentType := Request.header?_congr alike.headers (by decide)
  now := alike.now
  database := alike.database
  operatorId := alike.operatorId

namespace Service

/-- Whatever is asked of the service, the response has one identifier: the first that the request
brings if that is plain, or else the one that is drawn. What identifiers a request brings, and which
one is drawn for it, shows in the identifier of the response and in nothing else: the rest of the
response, the statements that are sent and the state after it are the same. -/
theorem identifier_is_all_that_differs (s : Service) (c : Call) (st : State) :
    (∀ response statements st', s.respond c st = some (response, statements, st') →
      response.values requestIdName =
        match c.request.header? requestIdName with
        | some v => if IsPlainIdentifier v then [v] else [c.requestId.toText]
        | none => [c.requestId.toText])
      ∧ ∀ c', c.DiffersIn requestIdName c' →
        s.respond c' st
          = (s.respond c st).map fun a => (a.1.withHeader requestIdName c'.identifier, a.2) := by
  constructor
  · intro response statements st' answered
    rw [s.respond_identifier answered, c.identifier_eq]
    split
    · split <;> rfl
    · rfl
  · intro c' alike
    have reads := Call.readsLike_of_differsIn alike
    have same (e : Endpoint) :
        s.answer e c' st.directory = (s.answer e c st.directory).mapDirectory id :=
      s.answer_congr reads e st.directory
    exact s.respond_congr (f := id) reads.toLooksLike rfl same st.recorder

/-- A preflight request, with the identifiers that it brings. -/
def markedPreflight (identifiers : List String) : Call :=
  ⟨⟨"OPTIONS", ⟨"/health".toList, []⟩,
      ("accept", "text/plain") :: identifiers.map fun v => (requestIdName, v), []⟩,
    .epoch, .unreachable, .ofNat 2, .ofNat 3, .free⟩

theorem identifier_is_all_that_differs_sample :
    ∃ service d, (hallSettings "user" "admin").launch .epoch true = .ok (service, d)
      ∧ ∃ response statements st',
          service.respond (markedPreflight ["a b", "c"]) ⟨d, .empty⟩
              = some (response, statements, st')
            ∧ response.values requestIdName = ["a b"]
            ∧ service.respond (markedPreflight ["", "a b"]) ⟨d, .empty⟩
              = some
                  (response.withHeader requestIdName "00000000-0000-0000-0000-000000000003",
                    statements, st') := by
  obtain ⟨⟨service, d⟩, launched⟩ :
      ∃ x, (hallSettings "user" "admin").launch .epoch true = .ok x := ⟨_, rfl⟩
  obtain ⟨⟨response, statements, st'⟩, answered⟩ := Option.isSome_iff_exists.mp
    (service.isSome_respond_of_preflight (c := markedPreflight ["a b", "c"]) rfl ⟨d, .empty⟩)
  obtain ⟨marked, others⟩ :=
    identifier_is_all_that_differs service (markedPreflight ["a b", "c"]) ⟨d, .empty⟩
  have differs : (markedPreflight ["a b", "c"]).DiffersIn requestIdName
      (markedPreflight ["", "a b"]) := ⟨rfl, rfl, rfl, by decide, rfl, rfl, rfl, rfl⟩
  have brought : (markedPreflight ["a b", "c"]).request.header? requestIdName = some "a b" := rfl
  have plain : IsPlainIdentifier "a b" := by decide
  have drawn : (markedPreflight ["", "a b"]).identifier
      = "00000000-0000-0000-0000-000000000003" := by decide +kernel
  refine ⟨service, d, launched, response, statements, st', answered, ?_, ?_⟩
  · rw [marked _ _ _ answered, brought]
    exact if_pos plain
  · rw [others _ differs, answered, drawn]
    rfl

end Service

end StudyHall
