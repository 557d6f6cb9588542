import StudyHall.Auth.Token
import StudyHall.Proofs.Auth.Claims
import StudyHall.Proofs.Bytes.Base64Url
import StudyHall.Proofs.Uuid

/-!
# Signed tokens verify

A token that a service signs is accepted by every service with the same secret and the same issuer
until the seconds of grace after its expiry are over, and gives back whom it was signed for. A
service with another issuer never accepts it, and neither does anyone accept a token that expires
before 1970.

The parts of a token hold no dot, so the dots between them are where the token is cut; each part is
then read back through base 64, UTF-8 and JSON, the signature is the one that was written, and what
is left is a comparison of seconds.

## Main results

* `pieces_seal` — a token is cut into the parts it was made of.
* `decode?_signature_iff` — the hash is read from its one signature and from nothing else.
* `signedPayload?_seal` — the payload of a sealed token is the claims that were sealed.
* `verify_seal` — what a service makes of sealed claims.
* `sign_of_after?`, `seal_of_sign` — a signed token is its claims, sealed.
* `verify_sign` — what a service makes of a token that was signed at some time.
* `verify_of_sign` — what a service makes of its own token at that very time.
-/

namespace StudyHall

open Text

/-! ## Parts -/

/-- What is written as a part is read back. -/
theorem partValue?_tokenPart {j : Json} (h : Json.Readable j) :
    partValue? (tokenPart j) = some j := by
  unfold partValue? tokenPart
  rw [Base64Url.decode?_encode, Option.bind_some, Json.ofBytes?_encode h]

theorem readable_tokenHeader : Json.Readable tokenHeader := by
  refine Json.Readable.ofFields fun f hf => ?_
  simp only [List.mem_cons, List.not_mem_nil, or_false] at hf
  rcases hf with rfl | rfl
  · exact Json.Readable.text _
  · exact Json.Readable.text _

theorem isTokenHeader_tokenHeader : isTokenHeader tokenHeader = true := by
  decide +kernel

theorem dot_notMem_tokenPart (j : Json) : '.' ∉ tokenPart j :=
  Base64Url.dot_notMem_encode _

theorem TokenService.dot_notMem_signature (s : TokenService) (message : List Char) :
    '.' ∉ s.signature message :=
  Base64Url.dot_notMem_encode _

theorem noDot {part : List Char} (h : '.' ∉ part) : ∀ c ∈ part, (c == '.') = false := by
  intro c hc
  refine beq_false_of_ne fun eq => ?_
  exact h (eq ▸ hc)

/-- The first time at which a token can be valid. -/
def firstMinute : Instant := ⟨60, 0, by decide⟩

namespace TokenService

variable {s v : TokenService}

/-- A token is cut into the parts it was made of. -/
theorem pieces_seal {header payload : List Char} (hh : '.' ∉ header) (hp : '.' ∉ payload) :
    pieces (· == '.') (s.seal header payload).toList
      = [header, payload, s.signature (header ++ '.' :: payload)] := by
  have cut : (s.seal header payload).toList
      = header ++ '.' :: (payload ++ '.' :: s.signature (header ++ '.' :: payload)) := by
    simp only [TokenService.seal, String.toList_ofList, List.append_assoc, List.cons_append]
  rw [cut, pieces_append (noDot hh) (by decide), pieces_append (noDot hp) (by decide),
    pieces_of_none (noDot (s.dot_notMem_signature _))]

/-- The hash of characters is read from their signature and from nothing else, so it makes no
difference that the bytes are compared and not the texts. -/
theorem decode?_signature_iff {signature message : List Char} :
    (Base64Url.decode? signature == some (s.mac message)) = true
      ↔ signature = s.signature message := by
  rw [beq_iff_eq, Base64Url.decode?_eq_some_iff]
  rfl

/-- The payload of a sealed token is the claims that were sealed, unless they expire before 1970. -/
theorem signedPayload?_seal {c : Claims} (secret : v.secret = s.secret)
    (issued : isInt64 c.issuedAt) (expires : isInt64 c.expiresAt) :
    v.signedPayload? (tokenPart tokenHeader) (tokenPart c.toJson)
        (s.signature (tokenPart tokenHeader ++ '.' :: tokenPart c.toJson))
      = if 0 ≤ c.expiresAt then some ⟨c, false⟩ else none := by
  have signed (message : List Char) :
      (Base64Url.decode? (s.signature message) == some (v.mac message)) = true := by
    refine decode?_signature_iff.mpr ?_
    unfold signature mac
    rw [secret]
  simp only [signedPayload?, partValue?_tokenPart readable_tokenHeader,
    partValue?_tokenPart c.readable_toJson, isTokenHeader_tokenHeader, signed,
    Bool.and_self, if_true, Option.bind_eq_bind, Option.bind_some,
    Payload.ofJson?_toJson issued expires]

/-- The times at which sealed claims are accepted. -/
theorem accepts_iff {c : Claims} {t : Instant} :
    v.accepts ⟨c, false⟩ t = true ↔ t.seconds ≤ c.expiresAt + 60 ∧ c.issuer = v.issuer := by
  simp only [accepts_eq_true_iff, and_true]

/-- What a service makes of sealed claims, from the first minute of 1970 on. -/
theorem verify_seal {c : Claims} {t : Instant} {id : Uuid} (secret : v.secret = s.secret)
    (issued : isInt64 c.issuedAt) (expires : isInt64 c.expiresAt)
    (bearer : Uuid.parse? c.userId = some id) (minute : 60 ≤ t.seconds) :
    v.verify (s.seal (tokenPart tokenHeader) (tokenPart c.toJson)) t
      = if v.issuer = c.issuer ∧ 0 ≤ c.expiresAt ∧ t.seconds ≤ c.expiresAt + 60 then
          .ok ⟨id, c.role, c.exam⟩
        else .error (.refused .invalidToken) := by
  have since : ¬ t.seconds < graceSeconds := Int.not_lt.mpr minute
  unfold verify
  rw [pieces_seal (dot_notMem_tokenPart _) (dot_notMem_tokenPart _)]
  simp only
  rw [signedPayload?_seal secret issued expires]
  by_cases expired : 0 ≤ c.expiresAt
  · simp only [expired, if_true, since, if_false, bearer, true_and]
    by_cases accepted : v.accepts ⟨c, false⟩ t = true
    · have window := accepts_iff.mp accepted
      rw [if_pos accepted, if_pos ⟨window.2.symm, window.1⟩]
    · rw [if_neg accepted, if_neg]
      intro window
      exact accepted (accepts_iff.mpr ⟨window.2, window.1.symm⟩)
  · simp only [expired, if_false, false_and, and_false]

/-! ## Signing -/

theorem isInt64_seconds (t : Instant) : isInt64 t.seconds := by
  have valid := t.valid
  simp only [Instant.isValid, Bool.and_eq_true, decide_eq_true_eq] at valid
  unfold Instant.firstSecond Instant.lastSecond at valid
  unfold isInt64 maxInt64
  omega

/-- A token is signed where the end of its lifetime is representable. -/
theorem sign_of_after? (userId : Uuid) (role : Role) (exam : Option Exam) {now expiry : Instant}
    (lasts : now.after? s.lifetime = some expiry) :
    s.sign userId role exam now
      = .ok (s.seal (tokenPart tokenHeader)
          (tokenPart
            (Claims.mk userId.toText role exam s.issuer now.seconds expiry.seconds).toJson)) := by
  simp only [sign, claims?, lasts, Option.map_some]

/-- Nothing is signed if the end of its lifetime is not representable. -/
theorem sign_of_after?_none {userId : Uuid} {role : Role} {exam : Option Exam} {now : Instant}
    (late : now.after? s.lifetime = none) :
    s.sign userId role exam now = .error .outsideCalendar := by
  simp only [sign, claims?, late, Option.map_none]

/-- A signed token is sealed claims that name whom it was signed for. -/
theorem seal_of_sign {userId : Uuid} {role : Role} {exam : Option Exam} {issued : Instant}
    {token : String} (signed : s.sign userId role exam issued = .ok token) :
    ∃ c : Claims, token = s.seal (tokenPart tokenHeader) (tokenPart c.toJson)
      ∧ c.userId = userId.toText ∧ c.role = role ∧ c.exam = exam
      ∧ isInt64 c.issuedAt ∧ isInt64 c.expiresAt := by
  unfold sign claims? at signed
  cases lasts : issued.after? s.lifetime with
  | none => simp [lasts] at signed
  | some expiry =>
      simp only [lasts, Option.map_some, Except.ok.injEq] at signed
      exact ⟨_, signed.symm, rfl, rfl, rfl, isInt64_seconds issued, isInt64_seconds expiry⟩

/-- A token that is signed at a time for which the end of its lifetime is representable is, on
every service with the same secret, accepted exactly if the issuer is the same and the token, not
having expired before 1970, has not been expired for more than a minute; it then gives back whom it
was signed for. -/
theorem verify_sign (s : TokenService) (userId : Uuid) (role : Role) (exam : Option Exam)
    (now expiry : Instant) (lasts : now.after? s.lifetime = some expiry) :
    ∃ token, s.sign userId role exam now = .ok token
      ∧ ∀ (v : TokenService) (t : Instant), v.secret = s.secret → 60 ≤ t.seconds →
        v.verify token t
          = if v.issuer = s.issuer ∧ 0 ≤ expiry.seconds ∧ t.seconds ≤ expiry.seconds + 60 then
              .ok ⟨userId, role, exam⟩
            else .error (.refused .invalidToken) := by
  refine ⟨_, sign_of_after? userId role exam lasts, ?_⟩
  intro v t secret minute
  exact verify_seal secret (isInt64_seconds now) (isInt64_seconds expiry)
    (Uuid.parse?_toText userId) minute

/-- A service whose issuer has to be escaped in JSON. -/
def sampleService : TokenService :=
  ⟨"secret", "the \"hall\"\n", Span.seconds 3600⟩

theorem verify_sign_sample :
    ∃ token, sampleService.sign (.ofNat 7) .admin (some .jee) .epoch = .ok token
      ∧ sampleService.verify token ⟨3660, 0, by decide⟩ = .ok ⟨.ofNat 7, .admin, some .jee⟩
      ∧ sampleService.verify token ⟨3661, 0, by decide⟩ = .error (.refused .invalidToken)
      ∧ (TokenService.mk "secret" "the hall" (Span.seconds 60)).verify token ⟨60, 0, by decide⟩
          = .error (.refused .invalidToken) := by
  obtain ⟨token, signed, verified⟩ := verify_sign sampleService (.ofNat 7) .admin (some .jee)
    .epoch ⟨3600, 0, by decide⟩ (by decide +kernel)
  have last := verified sampleService ⟨3660, 0, by decide⟩ rfl (by decide)
  have late := verified sampleService ⟨3661, 0, by decide⟩ rfl (by decide)
  have other := verified ⟨"secret", "the hall", Span.seconds 60⟩ ⟨60, 0, by decide⟩ rfl (by decide)
  exact ⟨token, signed, last.trans (if_pos (by decide +kernel)),
    late.trans (if_neg (by decide +kernel)), other.trans (if_neg (by decide +kernel))⟩

/-- What a service makes of a token of its own at the time of its signing, from the first minute of
1970 on. -/
theorem verify_of_sign {userId : Uuid} {role : Role} {exam : Option Exam} {now : Instant}
    {token : String} (signed : s.sign userId role exam now = .ok token)
    (minute : 60 ≤ now.seconds) :
    ∃ expiry, now.after? s.lifetime = some expiry
      ∧ s.verify token now
        = if 0 ≤ expiry.seconds ∧ now.seconds ≤ expiry.seconds + 60 then .ok ⟨userId, role, exam⟩
          else .error (.refused .invalidToken) := by
  cases lasts : now.after? s.lifetime with
  | none => simp only [sign, claims?, lasts, Option.map_none, reduceCtorEq] at signed
  | some expiry =>
      rw [sign_of_after? userId role exam lasts] at signed
      have verified := verify_seal (s := s) (v := s) (t := now)
        (c := ⟨userId.toText, role, exam, s.issuer, now.seconds, expiry.seconds⟩) rfl
        (isInt64_seconds now) (isInt64_seconds expiry) (Uuid.parse?_toText userId) minute
      rw [Except.ok.inj signed] at verified
      refine ⟨expiry, rfl, verified.trans ?_⟩
      simp only [true_and]

end TokenService

end StudyHall
