import StudyHall.Proofs.Auth.PartContent
import StudyHall.Proofs.Auth.TokenRoundTrip

/-!
# What an accepted token is

A token need not come from a service to be shown to it. Whatever the characters are, a token that is
accepted is the seal of two byte strings: the parts in front of a dot are read from base 64, which
gives bytes one written form, and the last part is compared with the one signature of the two. What
the bytes say is then fixed by the readers of headers and claims.

Of the payload only the expiry is compared with the clock, and from the first minute of 1970 on an
earlier time is further away from it.

## Main results

* `verify_eq_ok_iff` — a token is accepted for its payload, which does not depend on the time.
* `carries_of_payload?` — a token that has a payload is the seal of a header and claims.
* `signature_of_payload?` — two parts are accepted with their one signature only.
* `verify_sound` — what is known of a token that is accepted.
-/

namespace StudyHall

open Text

namespace TokenService

variable {s : TokenService} {token : String} {p : Payload}

/-! ## The payload of a token -/

/-- The payload of a token, if it has three parts and is signed. -/
def payload? (s : TokenService) (token : String) : Option Payload :=
  match pieces (· == '.') token.toList with
  | [header, payload, signature] => s.signedPayload? header payload signature
  | _ => none

/-- A token without a payload is refused; for the others the clock decides. -/
theorem verify_eq (now : Instant) :
    s.verify token now =
      match s.payload? token with
      | none => .error (.refused .invalidToken)
      | some p =>
          if now.seconds < 60 then .error .earlyClock
          else if s.accepts p now then
            match Uuid.parse? p.claims.userId with
            | some id => .ok ⟨id, p.claims.role, p.claims.exam⟩
            | none => .error (.refused .invalidToken)
          else .error (.refused .invalidToken) := by
  unfold verify payload?
  generalize pieces (· == '.') token.toList = parts
  rcases parts with _ | ⟨header, _ | ⟨payload, _ | ⟨signature, _ | ⟨more, parts⟩⟩⟩⟩ <;> rfl

/-- A token is accepted for its payload. -/
theorem verify_eq_ok_iff {now : Instant} {subject : TokenSubject} :
    s.verify token now = .ok subject ↔
      ∃ p id, s.payload? token = some p ∧ 60 ≤ now.seconds ∧ s.accepts p now = true
        ∧ Uuid.parse? p.claims.userId = some id ∧ subject = ⟨id, p.claims.role, p.claims.exam⟩ := by
  rw [verify_eq]
  constructor
  · intro accepted
    cases found : s.payload? token with
    | none => simp [found] at accepted
    | some p =>
        simp only [found] at accepted
        split at accepted
        · cases accepted
        · next since =>
            split at accepted
            · next valid =>
                split at accepted
                · next id bearer =>
                    cases accepted
                    exact ⟨p, id, rfl, Int.not_lt.mp since, valid, bearer, rfl⟩
                · cases accepted
            · cases accepted
  · rintro ⟨p, id, found, minute, valid, bearer, rfl⟩
    have since : ¬ now.seconds < 60 := Int.not_lt.mpr minute
    simp only [found, since, if_false, valid, if_true, bearer]

/-- Why a token is not accepted: it is invalid, or it is signed and the first minute of 1970 is not
over. -/
theorem verify_error_cases {now : Instant} {f : Fault ApiError}
    (rejected : s.verify token now = .error f) :
    (f = .earlyClock ∧ now.seconds < 60 ∧ (s.payload? token).isSome = true)
      ∨ (f = .refused .invalidToken ∧ (now.seconds < 60 → s.payload? token = none)) := by
  rw [verify_eq] at rejected
  cases found : s.payload? token with
  | none =>
      simp only [found] at rejected
      cases rejected
      exact .inr ⟨rfl, fun _ => rfl⟩
  | some p =>
      simp only [found] at rejected
      split at rejected
      · next before =>
          cases rejected
          exact .inl ⟨rfl, before, rfl⟩
      · next since =>
          refine .inr ⟨?_, fun before => absurd before since⟩
          split at rejected
          · split at rejected
            · cases rejected
            · cases rejected
              rfl
          · cases rejected
            rfl

/-- The payload of sealed claims, unless they expire before 1970. -/
theorem payload?_seal {c : Claims} (issued : isInt64 c.issuedAt) (expires : isInt64 c.expiresAt) :
    s.payload? (s.seal (tokenPart tokenHeader) (tokenPart c.toJson))
      = if 0 ≤ c.expiresAt then some ⟨c, false⟩ else none := by
  unfold payload?
  rw [pieces_seal (dot_notMem_tokenPart _) (dot_notMem_tokenPart _)]
  exact signedPayload?_seal rfl issued expires

/-- What a service makes of a token of its own at the time of its signing, before the first minute
of 1970 is over. -/
theorem verify_of_sign_early {userId : Uuid} {role : Role} {exam : Option Exam} {now : Instant}
    (signed : s.sign userId role exam now = .ok token) (early : now.seconds < 60) :
    ∃ expiry, now.after? s.lifetime = some expiry
      ∧ s.verify token now
        = if 0 ≤ expiry.seconds then .error .earlyClock else .error (.refused .invalidToken) := by
  cases lasts : now.after? s.lifetime with
  | none => simp only [sign_of_after?_none lasts, reduceCtorEq] at signed
  | some expiry =>
      rw [sign_of_after? userId role exam lasts, Except.ok.injEq] at signed
      refine ⟨expiry, rfl, ?_⟩
      rw [← signed, verify_eq, payload?_seal (isInt64_seconds now) (isInt64_seconds expiry)]
      by_cases since : 0 ≤ expiry.seconds
      · simp only [if_pos since, if_pos early]
      · simp only [if_neg since]

/-- An earlier time than one at which a payload is accepted is as good. -/
theorem accepts_of_le {now t : Instant} (accepted : s.accepts p now = true)
    (earlier : t.seconds ≤ now.seconds) : s.accepts p t = true := by
  obtain ⟨recent, rest⟩ := accepts_eq_true_iff.mp accepted
  exact accepts_eq_true_iff.mpr ⟨by omega, rest⟩

/-! ## Parts -/

/-- Three parts that have a payload: the bytes of the first two, and the signature. -/
theorem parts_of_signedPayload? {header payload signature : List Char}
    (signed : s.signedPayload? header payload signature = some p) :
    ∃ h b parameters fields, header = Base64Url.encode h ∧ payload = Base64Url.encode b
      ∧ Json.ofBytes? h = some (.object parameters) ∧ isTokenHeader (.object parameters) = true
      ∧ signature = s.signature (header ++ '.' :: payload)
      ∧ Json.ofBytes? b = some (.object fields)
      ∧ Claims.ofJson? (.object fields) = some p.claims := by
  obtain ⟨_, hpart, signed⟩ := Option.bind_eq_some_iff.mp signed
  obtain ⟨h, hbytes, hvalue⟩ := Option.bind_eq_some_iff.mp hpart
  split at signed
  · next checked =>
      obtain ⟨isHeader, isSignature⟩ := Bool.and_eq_true_iff.mp checked
      obtain ⟨q, bpart, kept⟩ := Option.bind_eq_some_iff.mp signed
      obtain ⟨_, bpart, read⟩ := Option.bind_eq_some_iff.mp bpart
      obtain ⟨b, bbytes, bvalue⟩ := Option.bind_eq_some_iff.mp bpart
      split at kept
      · cases kept
        -- Both readers take nothing but objects.
        unfold isTokenHeader at isHeader
        unfold Payload.ofJson? at read
        split at isHeader
        · next parameters =>
            split at read
            · next fields =>
                split at read
                · obtain ⟨c, claims, rfl⟩ := Option.map_eq_some_iff.mp read
                  exact ⟨h, b, parameters, fields, (Base64Url.encode_of_decode? hbytes).symm,
                    (Base64Url.encode_of_decode? bbytes).symm, hvalue, isHeader,
                    decode?_signature_iff.mp isSignature, bvalue, claims⟩
                · cases read
            · cases read
        · cases isHeader
      · cases kept
  · cases signed

/-- A token that has a payload is cut into three parts. -/
theorem signed_of_payload? (found : s.payload? token = some p) :
    ∃ header payload signature, token.toList = header ++ '.' :: (payload ++ '.' :: signature)
      ∧ s.signedPayload? header payload signature = some p := by
  unfold payload? at found
  split at found
  · next header payload signature cut =>
      refine ⟨header, payload, signature, ?_, found⟩
      have joined := joinWith_pieces '.' token.toList
      rw [cut] at joined
      simpa [joinWith] using joined.symm
  · cases found

/-! ## Headers and claims -/

/-- A token carries claims under a service: it is the seal of two byte strings, one of them a header
that names the algorithm, the other one an object with the claims. -/
structure Carries (s : TokenService) (token : String) (header payload : List UInt8) (c : Claims) :
    Prop where
  sealed : token = s.seal (Base64Url.encode header) (Base64Url.encode payload)
  header : ∃ parameters algorithm, Json.ofBytes? header = some (.object parameters)
    ∧ valuesOf "alg" parameters = [algorithm] ∧ algorithm.name? = some "HS256"
  claims : ∃ fields, Json.ofBytes? payload = some (.object fields)
    ∧ Claims.ofJson? (.object fields) = some c ∧ c.StandIn fields

/-- A token that has a payload is the seal of a header and claims. -/
theorem carries_of_payload? (found : s.payload? token = some p) :
    ∃ header payload, s.Carries token header payload p.claims := by
  obtain ⟨_, _, _, cut, signed⟩ := signed_of_payload? found
  obtain ⟨h, b, parameters, fields, rfl, rfl, hvalue, isHeader, rfl, bvalue, claims⟩ :=
    parts_of_signedPayload? signed
  obtain ⟨algorithm, only, named⟩ := algorithm_of_isTokenHeader isHeader
  refine ⟨h, b, ?_, ⟨parameters, algorithm, hvalue, only, named⟩,
    ⟨fields, bvalue, claims, Claims.standIn_of_ofJson? claims⟩⟩
  rw [← String.toList_inj, cut]
  simp only [TokenService.seal, String.toList_ofList, List.append_assoc, List.cons_append]

/-- Two parts are accepted with their one signature only. -/
theorem signature_of_payload? {header payload : List UInt8} {signature : List Char}
    (found : s.payload? (String.ofList
      (Base64Url.encode header ++ '.' :: Base64Url.encode payload ++ '.' :: signature)) = some p) :
    signature = s.signature (Base64Url.encode header ++ '.' :: Base64Url.encode payload) := by
  have cut : pieces (· == '.')
        (Base64Url.encode header ++ '.' :: Base64Url.encode payload ++ '.' :: signature)
      = Base64Url.encode header :: Base64Url.encode payload :: pieces (· == '.') signature := by
    rw [List.append_assoc, List.cons_append,
      pieces_append (noDot (Base64Url.dot_notMem_encode header)) (by decide),
      pieces_append (noDot (Base64Url.dot_notMem_encode payload)) (by decide)]
  unfold payload? at found
  rw [String.toList_ofList, cut] at found
  have joined := joinWith_pieces '.' signature
  -- What stands behind the second dot must be one piece, and so the signature itself.
  generalize pieces (· == '.') signature = parts at found joined
  rcases parts with _ | ⟨last, _ | ⟨more, rest⟩⟩
  · cases found
  · rw [joinWith] at joined
    obtain ⟨-, -, -, -, -, -, -, -, own, -, -⟩ := parts_of_signedPayload? found
    rw [← joined, own]
  · cases found

/-! ## Soundness -/

/-- A token that is accepted carries claims of the same issuer that expired a minute ago at most,
and the subject is whom they name. The two parts that say so are accepted with no other signature,
and the token was accepted at every earlier time since the first minute of 1970. -/
theorem verify_sound (s : TokenService) (token : String) (now : Instant) (subject : TokenSubject)
    (accepted : s.verify token now = .ok subject) :
    (∃ header payload c, s.Carries token header payload c
      ∧ c.issuer = s.issuer ∧ now.seconds ≤ c.expiresAt + 60
      ∧ Uuid.parse? c.userId = some subject.userId ∧ subject.role = c.role ∧ subject.exam = c.exam
      ∧ ∀ signature t other,
        s.verify (String.ofList (Base64Url.encode header ++ '.' :: Base64Url.encode payload
          ++ '.' :: signature)) t = .ok other →
        signature = s.signature (Base64Url.encode header ++ '.' :: Base64Url.encode payload))
    ∧ ∀ t : Instant, 60 ≤ t.seconds → t.seconds ≤ now.seconds → s.verify token t = .ok subject := by
  obtain ⟨p, id, found, -, valid, bearer, rfl⟩ := verify_eq_ok_iff.mp accepted
  constructor
  · obtain ⟨header, payload, carries⟩ := carries_of_payload? found
    obtain ⟨recent, issuer, -⟩ := accepts_eq_true_iff.mp valid
    refine ⟨header, payload, p.claims, carries, issuer, recent, bearer, rfl, rfl, ?_⟩
    intro signature t other verified
    obtain ⟨_, _, signed, -⟩ := verify_eq_ok_iff.mp verified
    exact signature_of_payload? signed
  · intro t minute earlier
    exact verify_eq_ok_iff.mpr ⟨p, id, found, minute, accepts_of_le valid earlier, bearer, rfl⟩

/-- Claims whose minute of grace ends at the second 3660. -/
def sampleClaims : Claims :=
  ⟨(Uuid.ofNat 7).toText, .admin, some .jee, sampleService.issuer, 0, 3600⟩

/-- The token of the sample claims. -/
def sampleToken : String :=
  sampleService.seal (tokenPart tokenHeader) (tokenPart sampleClaims.toJson)

/-- The sample token is accepted until its minute of grace ends. -/
theorem verify_sampleToken {now : Instant} (minute : 60 ≤ now.seconds)
    (recent : now.seconds ≤ 3660) :
    sampleService.verify sampleToken now = .ok ⟨.ofNat 7, .admin, some .jee⟩ := by
  have bearer : Uuid.parse? sampleClaims.userId = some (.ofNat 7) := Uuid.parse?_toText _
  unfold sampleToken
  rw [verify_seal rfl (isInt64_seconds .epoch) (isInt64_seconds ⟨3600, 0, by decide⟩) bearer minute,
    if_pos ⟨rfl, by decide, recent⟩]
  rfl

theorem verify_sound_sample :
    sampleService.verify sampleToken ⟨3660, 0, by decide⟩ = .ok ⟨.ofNat 7, .admin, some .jee⟩
      ∧ (∃ header payload c, sampleService.Carries sampleToken header payload c
        ∧ 3660 ≤ c.expiresAt + 60 ∧ Uuid.parse? c.userId = some (.ofNat 7) ∧ Role.admin = c.role)
      ∧ sampleService.verify sampleToken ⟨60, 0, by decide⟩
        = .ok ⟨.ofNat 7, .admin, some .jee⟩ := by
  have bearer : Uuid.parse? sampleClaims.userId = some (.ofNat 7) := Uuid.parse?_toText _
  have accepted : sampleService.verify sampleToken ⟨3660, 0, by decide⟩
      = .ok ⟨.ofNat 7, .admin, some .jee⟩ := by
    unfold sampleToken
    rw [verify_seal rfl (isInt64_seconds .epoch) (isInt64_seconds ⟨3600, 0, by decide⟩) bearer
      (by decide), if_pos (by decide +kernel)]
    rfl
  obtain ⟨⟨header, payload, c, carries, -, recent, bearer, role, -⟩, before⟩ :=
    verify_sound sampleService sampleToken ⟨3660, 0, by decide⟩ ⟨.ofNat 7, .admin, some .jee⟩
      accepted
  exact ⟨accepted, ⟨header, payload, c, carries, recent, bearer, role⟩,
    before ⟨60, 0, by decide⟩ (by decide) (by decide)⟩

end TokenService

end StudyHall
