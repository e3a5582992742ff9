import Depot.Auth.Signature
import Depot.Proofs.Auth.Authorization
import Depot.Proofs.Headers

/-!
# Signatures that are verified

Who verifies a request reads its authorization, finds the credential, and makes
the signature once more.  When nothing stands against the scope and the time of
signing, the signature of a credential is verified as that of its user
(`SignedBy.verify`), and no other is (`exists_signedBy`).
-/

namespace Depot.Auth

set_option autoImplicit false

open Depot.Http
open Depot.Text
open Depot.Time

/-! ## Signatures in hexadecimal -/

theorem length_encodeList (bytes : List UInt8) :
    (Hex.encodeList bytes).length = 2 * bytes.length := by
  induction bytes with
  | nil => rfl
  | cons b rest ih =>
      have step : Hex.encodeList (b :: rest) = Hex.pair b ++ Hex.encodeList rest := rfl
      rw [step, List.length_append, ih, List.length_cons]
      show 2 + _ = _
      omega

/-- The digits of bytes are small hexadecimal digits. -/
theorem mem_encodeList {bytes : List UInt8} {c : Char} (member : c ∈ Hex.encodeList bytes) :
    Hex.isDigit c ∧ c.toLower = c ∧ isTextByte c.toUInt8 ∧ Char.ofUInt8 c.toUInt8 = c := by
  have every : ∀ n : Fin 256, (Hex.pair (UInt8.ofFin n)).all fun c =>
      Hex.isDigit c ∧ c.toLower = c ∧ isTextByte c.toUInt8 ∧ Char.ofUInt8 c.toUInt8 = c := by
    decide +kernel
  obtain ⟨b, _, part⟩ := List.mem_flatMap.mp member
  exact of_decide_eq_true (List.all_eq_true.mp (every b.toFin) c part)

theorem isDigest_encode {bytes : ByteArray} (size : bytes.size = 32) :
    Hex.isDigest (Hex.encode bytes) := by
  have length : (Hex.encodeList bytes.data.toList).length = 64 := by
    rw [length_encodeList, Array.length_toList]
    show 2 * bytes.size = 64
    omega
  rw [Hex.isDigest, Hex.encode, String.toList_ofList, length]
  simpa using fun c member => (mem_encodeList member).1

theorem lower_encode (bytes : ByteArray) : lower (Hex.encode bytes) = Hex.encode bytes := by
  rw [lower, Hex.encode, String.toList_ofList]
  congr 1
  refine (List.map_congr_left fun c member => (mem_encodeList member).2.1).trans ?_
  simp

theorem visible_encode (bytes : ByteArray) : Visible (Hex.encode bytes) := by
  intro c member
  rw [Hex.encode, String.toList_ofList] at member
  exact (mem_encodeList member).2.2

theorem digits_encode (bytes : ByteArray) :
    ∀ c, c ∈ (Hex.encode bytes).toList → Hex.isDigit c := by
  intro c member
  rw [Hex.encode, String.toList_ofList] at member
  exact (mem_encodeList member).1

/-- A signature is verified with the key that it was made with. -/
theorem verifiesSignature_signatureOf (key : ByteArray) (text : String) :
    verifiesSignature key text (signatureOf key text) := by
  unfold verifiesSignature signatureOf
  rw [Hex.decode_encode]
  dsimp only
  show ByteArray.beq _ _ = true
  rw [ByteArray.beq, beq_self_eq_true]

/-- A hexadecimal digit in either case is read as the value that its small form writes. -/
theorem digit_of_value? {c : Char} {n : UInt8} (value : Hex.value? c = some n) :
    n < 16 ∧ c.toLower = Hex.digit n := by
  have digit : Hex.isDigit c := by
    rw [Hex.isDigit, value]
    rfl
  have every : (Hex.value? c).all fun n => n < 16 ∧ c.toLower = Hex.digit n :=
    of_ascii (by decide) (Authorization.ascii_of_hexDigit digit)
  rw [value] at every
  simpa using every

theorem pair_of_digits {high low : UInt8} (first : high < 16) (second : low < 16) :
    Hex.pair (high * 16 + low) = [Hex.digit high, Hex.digit low] := by
  have every : ∀ h l : Fin 16, Hex.pair (UInt8.ofNat h * 16 + UInt8.ofNat l) =
      [Hex.digit (UInt8.ofNat h), Hex.digit (UInt8.ofNat l)] := by decide
  have whole := every ⟨high.toNat, first⟩ ⟨low.toNat, second⟩
  rwa [UInt8.ofNat_toNat, UInt8.ofNat_toNat] at whole

/-- Digits are those of the bytes that they are read as, up to case. -/
theorem encodeList_of_decodeList {digits : List Char} {bytes : List UInt8}
    (read : Hex.decodeList digits = some bytes) :
    Hex.encodeList bytes = digits.map Char.toLower := by
  induction digits using Hex.decodeList.induct generalizing bytes with
  | case1 =>
      cases read
      rfl
  | case2 => cases read
  | case3 high low rest ih =>
      rw [Hex.decodeList] at read
      simp only [bind, Option.bind_eq_some_iff, pure, Option.some.injEq] at read
      obtain ⟨h, first, l, second, more, onward, rfl⟩ := read
      obtain ⟨smallHigh, highDigit⟩ := digit_of_value? first
      obtain ⟨smallLow, lowDigit⟩ := digit_of_value? second
      have step : Hex.encodeList ((h * 16 + l) :: more) =
          Hex.pair (h * 16 + l) ++ Hex.encodeList more := rfl
      rw [step, pair_of_digits smallHigh smallLow, ih onward, ← highDigit, ← lowDigit]
      rfl

/-- Only the digits of a signature are verified as it, in either case. -/
theorem lower_of_verifiesSignature {key : ByteArray} {text signature : String}
    (verifies : verifiesSignature key text signature) :
    lower signature = signatureOf key text := by
  unfold verifiesSignature at verifies
  split at verifies
  · next bytes read =>
      have same : bytes = Digest.Hmac.sha256 key text.toUTF8 := by
        have equal : (bytes.data == (Digest.Hmac.sha256 key text.toUTF8).data) = true := verifies
        exact ByteArray.ext (eq_of_beq equal)
      obtain ⟨list, digits, rfl⟩ := Option.map_eq_some_iff.mp read
      rw [signatureOf, ← same, Hex.encode, lower, encodeList_of_decodeList digits]
  · cases verifies

/-! ## Verification -/

/-- What a secret key signs a canonical request with, for a day and a region.  The day, the region,
the service and the closing word are coded in turn, each under the code of the one before, and the
last code is the key under which the text is coded that names the moment, the scope and the digest
of the request. -/
def signatureUnder (secretKey date region : String) (moment : Instant) (canonical : String) :
    String :=
  let code (key : ByteArray) (text : String) := Digest.Hmac.sha256 key text.toUTF8
  let key := code (code (code (code ("AWS4" ++ secretKey).toUTF8 date) region) "s3") "aws4_request"
  let scope := date ++ "/" ++ region ++ "/" ++ "s3" ++ "/" ++ "aws4_request"
  let digest := Hex.encode (Digest.Sha256.digest canonical.toUTF8)
  Hex.encode
    (code key ("AWS4-HMAC-SHA256" ++ "\n" ++ moment.compact ++ "\n" ++ scope ++ "\n" ++ digest))

theorem signatureOf_signingKey {scope : Scope} (forService : scope.service = "s3")
    (secretKey : String) (moment : Instant) (canonical : String) :
    signatureOf (signingKey secretKey scope.date scope.region scope.service)
      (stringToSign moment scope.text canonical) =
      signatureUnder secretKey scope.date scope.region moment canonical := by
  unfold Scope.text
  rw [forService]
  rfl

/-- A request carries the signature of a credential: its authorization names the access key, the
service and the region, and the day of the moment at which the request says that it was signed; and
the signature is the one that the secret key makes of the canonical form. -/
structure SignedBy (v : Verifier) (request : SignedRequest) (a : Authorization)
    (credential : Credential) (moment : Instant) (canonical : String) : Prop where
  sent : ∃ text, request.headers.text? "authorization" = some text ∧
    Authorization.ofText text = .ok a
  known : v.credentials.find? a.scope.accessKey = some credential
  forService : a.scope.service = "s3"
  forRegion : a.scope.region = v.region
  signedAt : requestTime request.headers = .ok moment
  onDay : a.scope.date = moment.compactDate
  form : canonicalRequest request.method request.target request.headers a.signedHeaders
    request.payloadHash = .ok canonical
  signed : a.signature =
    signatureUnder credential.secretKey a.scope.date a.scope.region moment canonical

section

variable {v : Verifier} {request : SignedRequest} {a : Authorization} {credential : Credential}
  {moment : Instant} {canonical : String}

/-- **The signature of a credential is verified as that of its user**, unless the clock is too far
from the moment of signing. -/
theorem SignedBy.verify (holds : SignedBy v request a credential moment canonical) (now : Instant) :
    v.verify request now =
      if now.secondsApart moment ≤ v.maxSkew then .ok credential.user
      else .error .requestExpired := by
  obtain ⟨⟨text, sent, read⟩, known, forService, forRegion, signedAt, onDay, form, signed⟩ := holds
  obtain ⟨value, carried, shown⟩ := Option.bind_eq_some_iff.mp sent
  have verified := verifiesSignature_signatureOf
    (signingKey credential.secretKey a.scope.date a.scope.region a.scope.service)
    (stringToSign moment a.scope.text canonical)
  rw [signatureOf_signingKey forService, ← signed] at verified
  replace forService : a.scope.service = service := forService
  unfold Verifier.verify
  rw [carried]
  dsimp only
  rw [shown]
  dsimp only
  rw [read]
  simp only [bind, Except.bind, known, forService, forRegion, signedAt, onDay, form, ne_eq,
    not_true_eq_false, if_false]
  by_cases recent : now.secondsApart moment ≤ v.maxSkew
  · rw [if_neg (Nat.not_lt.mpr recent), if_pos recent]
    rw [← forService, ← forRegion, ← onDay, verified]
    rfl
  · rw [if_pos (Nat.lt_of_not_le recent), if_neg recent]
    rfl

/-- **Only signatures of credentials are verified.** -/
theorem exists_signedBy {user : User} {now : Instant} (verified : v.verify request now = .ok user) :
    ∃ a credential moment canonical, SignedBy v request a credential moment canonical ∧
      now.secondsApart moment ≤ v.maxSkew ∧ credential.user = user := by
  unfold Verifier.verify at verified
  cases carried : request.headers.get? "authorization" with
  | none =>
      rw [carried] at verified
      cases verified
  | some value =>
  rw [carried] at verified
  dsimp only at verified
  cases shown : valueText? value with
  | none =>
      rw [shown] at verified
      cases verified
  | some text =>
  rw [shown] at verified
  dsimp only at verified
  obtain ⟨a, read, verified⟩ := Results.bind_eq_ok_iff.mp verified
  cases known : v.credentials.find? a.scope.accessKey with
  | none =>
      rw [known] at verified
      cases verified
  | some credential =>
  rw [known] at verified
  dsimp only at verified
  by_cases forService : a.scope.service = service
  case neg =>
    rw [if_pos forService] at verified
    cases verified
  rw [if_neg (not_not_intro forService)] at verified
  by_cases forRegion : a.scope.region = v.region
  case neg =>
    rw [if_pos forRegion] at verified
    cases verified
  rw [if_neg (not_not_intro forRegion)] at verified
  obtain ⟨moment, signedAt, verified⟩ := Results.bind_eq_ok_iff.mp verified
  by_cases onDay : a.scope.date = moment.compactDate
  case neg =>
    rw [if_pos onDay] at verified
    cases verified
  rw [if_neg (not_not_intro onDay)] at verified
  by_cases recent : now.secondsApart moment ≤ v.maxSkew
  case neg =>
    rw [if_pos (Nat.lt_of_not_le recent)] at verified
    cases verified
  rw [if_neg (Nat.not_lt.mpr recent)] at verified
  obtain ⟨canonical, form, verified⟩ := Results.bind_eq_ok_iff.mp verified
  split at verified
  · next verifies =>
      cases verified
      have sent : request.headers.text? "authorization" = some text := by
        rw [Headers.text?, carried]
        exact shown
      have signed := lower_of_verifiesSignature verifies
      rw [Authorization.lower_signature read, signatureOf_signingKey forService] at signed
      exact ⟨a, credential, moment, canonical, ⟨⟨text, sent, read⟩, known, forService, forRegion,
        signedAt, onDay, form, signed⟩, recent, rfl⟩
  · cases verified

end

end Depot.Auth
