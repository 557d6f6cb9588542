import StudyHall.Proofs.Service.Launch
import StudyHall.Proofs.Service.Stranger

/-!
# Tokens of learners at the console

A service signs the tokens of learners and those of operators under two secrets, and nothing else
tells them apart: issuer, header and claims are written in the same way. What is written into the
signature of a token is the keyed hash of the text before it, so a token of a learner is refused
at the console exactly if the two secrets give that text different hashes; otherwise the console
takes the token as the service for learners does.

The hash sees a secret as one block of 64 bytes only. Two secrets that give the same block agree on
every text, and these need not be equal: a shorter secret is filled up with zeros, a longer one is
hashed. The settings are not asked to tell the two secrets apart.

## Main results

* `Sha256.keyBlock_eq_iff` — the secrets of at most 64 bytes that give the same block.
* `TokenService.verify_seal_of_ne`, `TokenService.verify_seal_of_eq` — a sealed token under another
  secret.
* `learner_token_at_console` — what the console makes of a token of a learner.
* `learner_token_opens_console` — with one secret for both, it opens the console.
-/

namespace StudyHall

open Text

/-! ## Keys -/

namespace Sha256

/-- A key of at most one block is filled up with zeros. -/
theorem keyBlock_of_short {key : List UInt8} (short : key.length ≤ 64) :
    keyBlock key = key ++ List.replicate (64 - key.length) 0 := by
  unfold keyBlock
  rw [if_neg (by omega)]

/-- The longer of two keys with one block is the shorter one with zeros behind it. -/
theorem eq_append_of_keyBlock_eq {a b : List UInt8} (order : a.length ≤ b.length)
    (short : b.length ≤ 64) (same : keyBlock a = keyBlock b) :
    b = a ++ List.replicate (b.length - a.length) 0 := by
  rw [keyBlock_of_short (Nat.le_trans order short), keyBlock_of_short short] at same
  have front := congrArg (List.take b.length) same
  rw [List.take_left' rfl, List.take_append, List.take_of_length_le order,
    List.take_replicate, Nat.min_eq_left (by omega)] at front
  exact front.symm

/-- Keys of at most one block give the same block exactly if they differ in zeros at the end. -/
theorem keyBlock_eq_iff {a b : List UInt8} (ha : a.length ≤ 64) (hb : b.length ≤ 64) :
    keyBlock a = keyBlock b ↔
      ∃ n, b = a ++ List.replicate n 0 ∨ a = b ++ List.replicate n 0 := by
  constructor
  · intro same
    rcases Nat.le_total a.length b.length with order | order
    · exact ⟨_, .inl (eq_append_of_keyBlock_eq order hb same)⟩
    · exact ⟨_, .inr (eq_append_of_keyBlock_eq order ha same.symm)⟩
  · have filled {a : List UInt8} {n : Nat} (fits : (a ++ List.replicate n 0).length ≤ 64) :
        keyBlock (a ++ List.replicate n 0) = keyBlock a := by
      rw [List.length_append, List.length_replicate] at fits
      rw [keyBlock_of_short (by simpa using fits), keyBlock_of_short (by omega),
        List.append_assoc, List.replicate_append_replicate, List.length_append,
        List.length_replicate]
      congr 2
      omega
    rintro ⟨n, rfl | rfl⟩
    · exact (filled hb).symm
    · exact filled ha

/-- The keyed hash sees a key as its block. -/
theorem mac_congr {key key' : List UInt8} (same : keyBlock key = keyBlock key')
    (message : List UInt8) : mac key message = mac key' message := by
  unfold mac
  rw [same]

end Sha256

/-! ## Tokens under another secret -/

/-- The characters of a token that its signature is about: those before its last dot. -/
def signedText (token : String) : List Char :=
  match pieces (· == '.') token.toList with
  | [header, payload, _] => header ++ '.' :: payload
  | _ => []

/-- The keyed hash of the signed characters of a token under a secret. -/
def tokenHash (secret token : String) : List UInt8 :=
  Sha256.mac (Utf8.ofText secret) (Utf8.encode (signedText token))

namespace TokenService

variable {s v : TokenService} {header payload : List Char} {now : Instant}

theorem signedText_seal (hh : '.' ∉ header) (hp : '.' ∉ payload) :
    signedText (s.seal header payload) = header ++ '.' :: payload := by
  unfold signedText
  rw [pieces_seal hh hp]

/-- Two services sign in the same way what their secrets give the same hash. -/
theorem signature_eq_iff (hh : '.' ∉ header) (hp : '.' ∉ payload) :
    v.signature (header ++ '.' :: payload) = s.signature (header ++ '.' :: payload) ↔
      tokenHash v.secret (s.seal header payload) = tokenHash s.secret (s.seal header payload) := by
  unfold tokenHash signature mac
  rw [signedText_seal hh hp]
  constructor
  · intro same
    have bytes := congrArg Base64Url.decode? same
    rwa [Base64Url.decode?_encode, Base64Url.decode?_encode, Option.some.injEq] at bytes
  · intro same
    rw [same]

/-- A token whose text has another hash is refused, whatever the clock says. -/
theorem verify_seal_of_ne (hh : '.' ∉ header) (hp : '.' ∉ payload)
    (differ : tokenHash v.secret (s.seal header payload)
      ≠ tokenHash s.secret (s.seal header payload)) :
    v.verify (s.seal header payload) now = .error (.refused .invalidToken) := by
  have unsigned : (Base64Url.decode? (s.signature (header ++ '.' :: payload))
      == some (v.mac (header ++ '.' :: payload))) = false := by
    rw [← Bool.not_eq_true, decode?_signature_iff]
    exact fun same => differ ((signature_eq_iff hh hp).mp same.symm)
  have noPayload : v.signedPayload? header payload (s.signature (header ++ '.' :: payload))
      = none := by
    unfold signedPayload?
    cases partValue? header with
    | none => rfl
    | some h => simp [unsigned]
  unfold verify
  rw [pieces_seal hh hp]
  simp only [noPayload]

/-- A token whose text has the same hash is taken as by the service that signed it, for the same
issuer. -/
theorem verify_seal_of_eq (hh : '.' ∉ header) (hp : '.' ∉ payload) (issuer : v.issuer = s.issuer)
    (same : tokenHash v.secret (s.seal header payload)
      = tokenHash s.secret (s.seal header payload)) :
    v.verify (s.seal header payload) now = s.verify (s.seal header payload) now := by
  have hash : v.mac (header ++ '.' :: payload) = s.mac (header ++ '.' :: payload) := by
    unfold tokenHash at same
    rwa [signedText_seal hh hp] at same
  have samePayload : v.signedPayload? header payload (s.signature (header ++ '.' :: payload))
      = s.signedPayload? header payload (s.signature (header ++ '.' :: payload)) := by
    unfold signedPayload?
    rw [hash]
  have accepts : ∀ p, v.accepts p now = s.accepts p now := by
    intro p
    unfold TokenService.accepts
    rw [issuer]
  unfold verify
  rw [pieces_seal hh hp]
  simp only [samePayload, accepts]

/-- Whoever accepts a signed token with its own secret takes the bearer for whom it was signed
for. -/
theorem role_of_verify_sign {userId : Uuid} {role : Role} {exam : Option Exam} {issued : Instant}
    {token : String} {subject : TokenSubject}
    (signed : s.sign userId role exam issued = .ok token)
    (accepted : s.verify token now = .ok subject) : subject = ⟨userId, role, exam⟩ := by
  obtain ⟨c, rfl, named, rfl, rfl, issuedAt, expiresAt⟩ := seal_of_sign signed
  obtain ⟨p, id, found, -, -, bearer, rfl⟩ := verify_eq_ok_iff.mp accepted
  rw [payload?_seal issuedAt expiresAt] at found
  split at found
  · cases found
    rw [named, Uuid.parse?_toText, Option.some.injEq] at bearer
    rw [bearer]
  · cases found

end TokenService

/-! ## A launched service -/

/-- A token of a learner is refused at the console, whatever role it names and whenever it is
shown, unless the two secrets of the settings give its text the same keyed hash. Where they do, as
always when the secrets give the same block, the console takes the token as the service for
learners does, and an operator's role opens it. -/
theorem learner_token_at_console {s : Settings} {started : Instant} {reportsMetrics : Bool}
    {service : Service} {d : Directory}
    (launched : s.launch started reportsMetrics = .ok (service, d))
    (userId : Uuid) (role : Role) (exam : Option Exam) (issued : Instant) {token : String}
    (signed : service.learnerTokens.sign userId role exam issued = .ok token) :
    (∀ now, service.adminTokens.verify token now =
        if tokenHash s.jwtAdminSecret token = tokenHash s.jwtUserSecret token then
          service.learnerTokens.verify token now
        else .error (.refused .invalidToken))
      ∧ (∀ (r : Request) now subject, r.bearer? = some token →
          (service.adminTokens.operator r now = .ok subject ↔
            tokenHash s.jwtAdminSecret token = tokenHash s.jwtUserSecret token
              ∧ service.learnerTokens.verify token now = .ok subject ∧ role.isAdmin = true))
      ∧ (Sha256.keyBlock (Utf8.ofText s.jwtAdminSecret)
            = Sha256.keyBlock (Utf8.ofText s.jwtUserSecret) →
          tokenHash s.jwtAdminSecret token = tokenHash s.jwtUserSecret token) := by
  have made := Settings.made_of_launch launched
  have verified : ∀ now, service.adminTokens.verify token now =
      if tokenHash s.jwtAdminSecret token = tokenHash s.jwtUserSecret token then
        service.learnerTokens.verify token now
      else .error (.refused .invalidToken) := by
    intro now
    obtain ⟨c, rfl, -⟩ := TokenService.seal_of_sign signed
    have hh := dot_notMem_tokenPart tokenHeader
    have hp := dot_notMem_tokenPart c.toJson
    rw [made.learnerTokens, made.adminTokens]
    split
    · next same => exact TokenService.verify_seal_of_eq hh hp rfl same
    · next differ => exact TokenService.verify_seal_of_ne hh hp differ
  refine ⟨verified, ?operator, fun same => Sha256.mac_congr same _⟩
  case operator =>
    intro r now subject carried
    unfold TokenService.operator TokenService.sender
    simp only [carried, verified now]
    by_cases same : tokenHash s.jwtAdminSecret token = tokenHash s.jwtUserSecret token
    · simp only [same, if_true, true_and]
      cases accepted : service.learnerTokens.verify token now with
      | error f => simp
      | ok bearer =>
          obtain rfl := TokenService.role_of_verify_sign signed accepted
          by_cases may : role.isAdmin = true
          · simp [may]
          · simp [may]
    · simp [same]

/-! ## Two secrets, and one for both -/

theorem tokenHash_hallToken (key secret : String) :
    tokenHash key (hallToken secret)
      = Sha256.mac (Utf8.ofText key)
        (Utf8.encode (tokenPart tokenHeader ++ '.' :: tokenPart hallClaims.toJson)) := by
  unfold tokenHash hallToken
  rw [TokenService.signedText_seal (dot_notMem_tokenPart _) (dot_notMem_tokenPart _)]

theorem learner_token_at_console_sample :
    ∃ service d,
      (hallSettings "user-secret" "admin-secret").launch .epoch true = .ok (service, d)
        ∧ service.learnerTokens.sign (.ofNat 7) .admin none .epoch = .ok (hallToken "user-secret")
        ∧ tokenHash "admin-secret" (hallToken "user-secret")
          ≠ tokenHash "user-secret" (hallToken "user-secret")
        ∧ service.adminTokens.verify (hallToken "user-secret") ⟨60, 0, by decide⟩
          = .error (.refused .invalidToken) := by
  obtain ⟨⟨service, d⟩, launched⟩ :
      ∃ x, (hallSettings "user-secret" "admin-secret").launch .epoch true = .ok x := ⟨_, rfl⟩
  obtain ⟨learner, -⟩ := tokens_of_launch_hall launched
  have signed : service.learnerTokens.sign (.ofNat 7) .admin none .epoch
      = .ok (hallToken "user-secret") := by
    rw [learner, sign_hallToken]
  have differ : tokenHash "admin-secret" (hallToken "user-secret")
      ≠ tokenHash "user-secret" (hallToken "user-secret") := by
    rw [tokenHash_hallToken, tokenHash_hallToken]
    decide +kernel
  obtain ⟨verified, -⟩ := learner_token_at_console launched _ _ _ _ signed
  exact ⟨service, d, launched, signed, differ, (verified _).trans (if_neg differ)⟩

/-- A learner whose role is that of an operator is taken for one where both secrets are given as
the same text. -/
theorem learner_token_opens_console :
    ∃ s service d r, Settings.read (hallVars "secret" "secret") = .ok s
      ∧ s.launch .epoch true = .ok (service, d)
      ∧ service.learnerTokens.sign (.ofNat 7) .admin none .epoch = .ok (hallToken "secret")
      ∧ service.adminTokens.verify (hallToken "secret") ⟨60, 0, by decide⟩
        = .ok ⟨.ofNat 7, .admin, none⟩
      ∧ Request.bearer? r = some (hallToken "secret")
      ∧ service.adminTokens.operator r ⟨60, 0, by decide⟩ = .ok ⟨.ofNat 7, .admin, none⟩ := by
  obtain ⟨⟨service, d⟩, launched⟩ :
      ∃ x, (hallSettings "secret" "secret").launch .epoch true = .ok x := ⟨_, rfl⟩
  obtain ⟨learner, admin⟩ := tokens_of_launch_hall launched
  let r : Request :=
    ⟨"GET", ⟨operatorsPath, []⟩, [("authorization", "Bearer " ++ hallToken "secret")], []⟩
  have carried : r.bearer? = some (hallToken "secret") :=
    Request.bearer?_of_header rfl fun _ => TokenService.plain_of_mem_seal
  have accepted := verify_hallToken "secret"
  rw [← admin] at accepted
  have signed : service.learnerTokens.sign (.ofNat 7) .admin none .epoch
      = .ok (hallToken "secret") := by
    rw [learner, sign_hallToken]
  exact ⟨hallSettings "secret" "secret", service, d, r, read_hallVars _ _, launched, signed,
    accepted, carried, Service.operator_of_token carried accepted (.inl rfl)⟩

end StudyHall
