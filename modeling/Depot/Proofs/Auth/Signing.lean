import Depot.Proofs.Auth.Verification
import Depot.Proofs.Moments

/-!
# What is signed is verified

A signer puts the moment of signing and the digest of the body into the headers,
signs all headers that are there, and adds the authorization.  The verifier reads
all of that back: the authorization component by component, the moment from its
header, to the second, and each signed header by its name.  So it makes the same
canonical form, and whoever signs with a registered credential is verified as
its user (`sign_verify`), at every clock that is not too far away.
-/

namespace Depot.Auth

set_option autoImplicit false

open Depot.Http
open Depot.Text
open Depot.Time

/-! ## Canonical forms of textual headers -/

theorem exists_mapM_ok {ε α β : Type} {f : α → Except ε β} {list : List α}
    (each : ∀ a, a ∈ list → ∃ b, f a = .ok b) :
    ∃ results, list.mapM f = .ok results ∧ results.length = list.length := by
  induction list with
  | nil => exact ⟨[], rfl, rfl⟩
  | cons a rest ih =>
      obtain ⟨b, first⟩ := each a List.mem_cons_self
      obtain ⟨more, onward, length⟩ := ih fun a' member => each a' (.tail _ member)
      refine ⟨b :: more, ?_, congrArg (· + 1) length⟩
      rw [List.mapM_cons, first, onward]
      rfl

theorem mapM_congr {ε α β : Type} {f g : α → Except ε β} {list : List α}
    (same : ∀ a, a ∈ list → f a = g a) : list.mapM f = list.mapM g := by
  induction list with
  | nil => rfl
  | cons a rest ih =>
      rw [List.mapM_cons, List.mapM_cons, same a List.mem_cons_self,
        ih fun a' member => same a' (.tail _ member)]

section

variable {headers : Headers}

/-- Each name that occurs contributes its line. -/
theorem exists_signedLine (textual : headers.Textual) (target : Target) {name : String}
    (occurs : name ∈ headers.names) : ∃ line, signedLine target headers name = .ok line := by
  obtain ⟨value, known⟩ := headers.mem_names_iff name |>.mp occurs
  have small : lower name = name := (of_fieldName? (textual.name _ known)).2.1
  have each : ∀ value, value ∈ headers.getAll name → ∃ text, plainValue name value = .ok text := by
    intro value member
    obtain ⟨text, shown⟩ := textual.value _ (headers.mem_getAll_iff name |>.mp member)
    exact ⟨_, by rw [plainValue, shown]⟩
  obtain ⟨values, read, length⟩ := exists_mapM_ok each
  have filled : values.isEmpty = false := by
    have one := List.length_pos_of_mem (headers.mem_getAll_iff name |>.mpr known)
    cases values with
    | nil => exact absurd length (Nat.ne_of_lt one)
    | cons first rest => rfl
  refine ⟨name ++ ":" ++ joined "," values ++ "\n", ?_⟩
  unfold signedLine signedValue
  rw [small, read]
  simp only [bind, Except.bind, filled]
  rfl

/-- Textual headers have a canonical form. -/
theorem exists_canonicalRequest (textual : headers.Textual) (method : String) (target : Target)
    (payloadHash : String) :
    ∃ canonical, canonicalRequest method target headers headers.names payloadHash =
      .ok canonical := by
  obtain ⟨lines, read, -⟩ := exists_mapM_ok fun name => exists_signedLine textual target
  unfold canonicalRequest
  rw [read]
  exact ⟨_, rfl⟩

/-- A header that is not signed does not matter to the canonical form. -/
theorem canonicalRequest_insert {name : String} {signedHeaders : List String}
    (unsigned : ∀ other, other ∈ signedHeaders → name ≠ lower other) (method : String)
    (target : Target) (value : FieldValue) (payloadHash : String) :
    canonicalRequest method target (headers.insert name value) signedHeaders payloadHash =
      canonicalRequest method target headers signedHeaders payloadHash := by
  unfold canonicalRequest
  rw [mapM_congr fun other member => ?_]
  unfold signedLine signedValue
  rw [headers.getAll_insert_of_ne name (unsigned other member)]

end

/-! ## What a signer adds -/

theorem visible_padded (width n : Nat) : Visible (padded width n) :=
  .of_digits fun _ => isDigit_padded

theorem visible_compact {moment : Instant} (year : moment.HasFourDigitYear) :
    Visible moment.compact := by
  have marks : Visible "T" ∧ Visible "Z" := by decide
  have date : Visible moment.compactDate := .of_digits fun _ => Instant.isDigit_compactDate year
  unfold Instant.compact
  exact ((((date.append marks.1).append (visible_padded _ _)).append (visible_padded _ _)).append
    (visible_padded _ _)).append marks.2

/-- The names of textual headers, joined, are visible. -/
theorem visible_joined_names {headers : Headers} (textual : headers.Textual) :
    Visible (joined ";" headers.names) := by
  intro c member
  have whole := Authorization.toList_joined ';' headers.names
  obtain rfl | ⟨text, known, here⟩ := Authorization.mem_intercalate (whole ▸ member)
  · decide
  · obtain ⟨name, listed, rfl⟩ := List.mem_map.mp known
    obtain ⟨value, line⟩ := headers.mem_names_iff name |>.mp listed
    exact (isNameChar_spec ((of_fieldName? (textual.name _ line)).2.2 c here)).1

namespace Signer

/-- The headers that are signed. -/
def prepared (headers : Headers) (payloadHash : String) (moment : Instant) : Headers :=
  ((headers.insert dateHeader moment.compact.toUTF8).insert digestHeader payloadHash.toUTF8).erase
    "authorization"

/-- A signer whose keys and region can stand in an authorization. -/
structure Presentable (s : Signer) : Prop where
  named : s.accessKey ≠ ""
  accessKey : Visible s.accessKey ∧ ',' ∉ s.accessKey.toList ∧ '/' ∉ s.accessKey.toList
  region : Visible s.region ∧ ',' ∉ s.region.toList ∧ '/' ∉ s.region.toList

section

variable {s : Signer} {headers : Headers} {payloadHash : String} {moment : Instant}

theorem textual_prepared (textual : headers.Textual) (year : moment.HasFourDigitYear)
    (text : Visible payloadHash) : (prepared headers payloadHash moment).Textual := by
  have date : fieldName? dateHeader = some dateHeader := by decide
  have digest : fieldName? digestHeader = some digestHeader := by decide
  exact ((textual.insert date (visible_compact year)).insert digest text).erase "authorization"

/-- The moment of signing is read from the headers that are signed, to the second. -/
theorem requestTime_signed (year : moment.HasFourDigitYear) (value : FieldValue) :
    requestTime ((prepared headers payloadHash moment).insert "authorization" value) =
      .ok moment.truncated := by
  have sent : ((prepared headers payloadHash moment).insert "authorization" value).get? dateHeader =
      some moment.compact.toUTF8 := by
    rw [Headers.get?_insert_of_ne _ _ (by decide), prepared,
      Headers.get?_erase_of_ne _ _ (by decide), Headers.get?_insert_of_ne _ _ (by decide),
      Headers.get?_insert_self]
  have read : Instant.ofCompact? moment.compact = some moment.truncated := by
    have civil := moment.civil_truncated
    rw [← moment.compact_truncated.2]
    refine Instant.ofCompact?_compact moment.onClock_truncated ?_ ?_
    · rw [civil]
    · rw [Instant.HasFourDigitYear, civil]
      exact year
  unfold requestTime
  rw [sent]
  dsimp only
  rw [(visible_compact year).valueText?]
  dsimp only
  rw [read]

/-- The authorization of a presentable signer can be read again. -/
theorem legible (presentable : s.Presentable) (textual : headers.Textual)
    (occurs : headers.names ≠ []) (year : moment.HasFourDigitYear) (key : ByteArray)
    (text : String) :
    (Authorization.mk (s.scope moment) headers.names (signatureOf key text)).Legible where
  accessKey := presentable.named
  scope := by
    have date : ',' ∉ moment.compactDate.toList ∧ '/' ∉ moment.compactDate.toList :=
      ⟨fun member => absurd (Instant.isDigit_compactDate year member) (by decide),
        fun member => absurd (Instant.isDigit_compactDate year member) (by decide)⟩
    have s3 : ',' ∉ service.toList ∧ '/' ∉ service.toList := by decide
    simp only [scope, List.mem_cons, List.not_mem_nil, or_false, forall_eq_or_imp, forall_eq]
    exact ⟨presentable.accessKey.2, date, presentable.region.2, s3⟩
  signedHeaders := occurs
  names name member := by
    obtain ⟨value, line⟩ := headers.mem_names_iff name |>.mp member
    obtain ⟨filled, small, chars⟩ := of_fieldName? (textual.name _ line)
    exact ⟨filled, small, fun c here => (isNameChar_spec (chars c here)).2⟩
  signature := isDigest_encode (Digest.Hmac.size_sha256 _ _)
  small := lower_encode _

/-- The authorization of a presentable signer can be sent. -/
theorem visible_text (presentable : s.Presentable) (textual : headers.Textual)
    (year : moment.HasFourDigitYear) (key : ByteArray) (text : String) :
    Visible (Authorization.mk (s.scope moment) headers.names (signatureOf key text)).text := by
  have date : Visible moment.compactDate := .of_digits fun _ => Instant.isDigit_compactDate year
  have marks : Visible (algorithm ++ " Credential=") ∧ Visible "/" ∧ Visible service ∧
      Visible terminator ∧ Visible ", SignedHeaders=" ∧ Visible ", Signature=" := by
    decide
  obtain ⟨lead, slash, s3, last, signedHeaders, signature⟩ := marks
  have scopeText : Visible (s.scope moment).text :=
    (((((date.append slash).append presentable.region.1).append slash).append s3).append
      slash).append last
  unfold Authorization.text
  exact (((((((lead.append presentable.accessKey.1).append slash).append scopeText).append
    signedHeaders).append (visible_joined_names textual)).append signature).append
      (visible_encode _))

theorem dateHeader_mem_names (headers : Headers) (payloadHash : String) (moment : Instant) :
    dateHeader ∈ (prepared headers payloadHash moment).names := by
  have signed : dateHeader ≠ "authorization" := by decide
  have other : dateHeader ≠ digestHeader := by decide
  refine (Headers.mem_names_iff _ _).mpr ⟨moment.compact.toUTF8, ?_⟩
  refine (Headers.mem_erase_iff _ _).mpr ⟨(Headers.mem_insert_iff _ _).mpr ?_, signed⟩
  exact .inl ⟨(Headers.mem_insert_iff _ _).mpr (.inr rfl), other⟩

theorem put_visible {text : String} (visible : Visible text) (headers : Headers) (name : String) :
    put headers name text = .ok (headers.insert name text.toUTF8) := by
  rw [put, visible.fieldValue?]

/-- The authorization that a signer adds for a canonical form. -/
def authorizationOf (s : Signer) (signedHeaders : List String) (moment : Instant)
    (canonical : String) : Authorization :=
  ⟨s.scope moment, signedHeaders,
    signatureOf (signingKey s.secretKey moment.compactDate s.region service)
      (stringToSign moment (s.scope moment).text canonical)⟩

/-- Signing succeeds. -/
theorem exists_signWithHash (presentable : s.Presentable) (textual : headers.Textual)
    (text : Visible payloadHash) (year : moment.HasFourDigitYear) (method : String)
    (target : Target) :
    let ready := prepared headers payloadHash moment
    ∃ canonical,
      canonicalRequest method target ready ready.names payloadHash = .ok canonical ∧
      s.signWithHash method target headers payloadHash moment =
        .ok (ready.insert "authorization"
          (s.authorizationOf ready.names moment canonical).text.toUTF8) := by
  intro ready
  have readyTextual : ready.Textual := textual_prepared textual year text
  obtain ⟨canonical, form⟩ := exists_canonicalRequest readyTextual method target payloadHash
  refine ⟨canonical, form, ?_⟩
  have authorized : s.authorize method target ready ready.names payloadHash moment =
      .ok (s.authorizationOf ready.names moment canonical) := by
    unfold authorize
    rw [form]
    rfl
  have sendable : Visible (s.authorizationOf ready.names moment canonical).text :=
    visible_text presentable readyTextual year _ _
  unfold signWithHash
  rw [put_visible (visible_compact year)]
  simp only [bind, Except.bind]
  rw [put_visible text]
  dsimp only
  show Except.bind (s.authorize method target ready ready.names payloadHash moment)
    (fun authorization => put ready "authorization" authorization.text) = _
  rw [authorized]
  exact put_visible sendable ready "authorization"

/-- What a signer adds carries the signature of the credential. -/
theorem signedBy_authorizationOf {v : Verifier} {credential : Credential}
    (known : v.credentials.find? s.accessKey = some credential)
    (secret : credential.secretKey = s.secretKey) (region : v.region = s.region)
    (presentable : s.Presentable) (textual : headers.Textual) (text : Visible payloadHash)
    (year : moment.HasFourDigitYear) {method : String} {target : Target} {canonical : String}
    (form : canonicalRequest method target (prepared headers payloadHash moment)
      (prepared headers payloadHash moment).names payloadHash = .ok canonical) :
    let ready := prepared headers payloadHash moment
    let a := s.authorizationOf ready.names moment canonical
    SignedBy v ⟨method, target, ready.insert "authorization" a.text.toUTF8, payloadHash⟩ a
      credential moment.truncated canonical := by
  intro ready a
  have readyTextual : ready.Textual := textual_prepared textual year text
  have occurs : ready.names ≠ [] :=
    List.ne_nil_of_mem (dateHeader_mem_names headers payloadHash moment)
  have unsigned : ∀ other, other ∈ ready.names → "authorization" ≠ lower other := by
    intro other member same
    obtain ⟨value, line⟩ := ready.mem_names_iff other |>.mp member
    rw [(of_fieldName? (readyTextual.name _ line)).2.1] at same
    exact ((Headers.mem_erase_iff _ _).mp line).2 same.symm
  obtain ⟨date, compact⟩ := moment.compact_truncated
  refine
    { sent :=
        ⟨a.text, ?_, Authorization.ofText_text (legible presentable readyTextual occurs year _ _)⟩
      known
      forService := rfl
      forRegion := region.symm
      signedAt := requestTime_signed year _
      onDay := date.symm
      form := (canonicalRequest_insert unsigned ..).trans form
      signed := ?_ }
  · rw [Headers.text?, Headers.get?_insert_self]
    exact (visible_text presentable readyTextual year _ _).valueText?
  · rw [secret]
    show a.signature =
      signatureOf _ (algorithm ++ "\n" ++ moment.truncated.compact ++ _ ++ _ ++ _ ++ _)
    rw [compact]
    rfl

end

end Signer

/-! ## Signing and verifying -/

/-- **Whoever signs with a registered credential is verified as its user, and nobody else is.**  A
presentable signer with the keys of a credential, for the region of the verifier, signs every
request whose headers and digest are text, in every year of four digits.  What is signed is
verified as the user of the credential at every clock that is at most the allowed skew away from the
moment of signing, taken to the second, and is expired at every other clock.  Conversely a request
is verified as a user only when it carries the signature of a credential of that user. -/
theorem sign_verify :
    (∀ {s : Signer} {v : Verifier} {credential : Credential},
      v.credentials.find? s.accessKey = some credential → credential.secretKey = s.secretKey →
      v.region = s.region → s.Presentable →
      ∀ (method : String) (target : Target) {headers : Headers} {payloadHash : String}
        {moment : Instant},
        headers.Textual → Visible payloadHash → moment.HasFourDigitYear →
        ∃ signed, s.signWithHash method target headers payloadHash moment = .ok signed ∧
          ∀ now, v.verify ⟨method, target, signed, payloadHash⟩ now =
            if now.secondsApart moment.truncated ≤ v.maxSkew then .ok credential.user
            else .error .requestExpired) ∧
    (∀ {v : Verifier} {request : SignedRequest} {now : Instant} {user : User},
      v.verify request now = .ok user →
      ∃ a credential moment canonical, SignedBy v request a credential moment canonical ∧
        now.secondsApart moment ≤ v.maxSkew ∧ credential.user = user) := by
  constructor
  · intro s v credential known secret region presentable method target headers payloadHash moment
      textual text year
    obtain ⟨canonical, form, signs⟩ :=
      Signer.exists_signWithHash presentable textual text year method target
    refine ⟨_, signs, fun now => ?_⟩
    exact (Signer.signedBy_authorizationOf known secret region presentable textual text year
      form).verify now
  · intro v request now user verified
    exact exists_signedBy verified

/-- A request that is signed in the leap second after a leap day is verified for a quarter of an
hour after it. -/
theorem verified_for_its_skew :
    let credential : Credential := ⟨"ann", "key", "secret"⟩
    let signer : Signer := ⟨"key", "secret", "us-east-1"⟩
    let verifier : Verifier := ⟨.ofList [credential], "us-east-1", 900⟩
    let target : Target := ⟨none, "/box/k", none⟩
    let headers : Headers :=
      ⟨[("host", "localhost".toUTF8), ("x-note", " a \t b".toUTF8), ("x-note", "c".toUTF8)]⟩
    let moment : Instant := ⟨951868799, 1500000000⟩
    ∃ signed, signer.signWithHash "PUT" target headers unsignedPayload moment = .ok signed ∧
      verifier.verify ⟨"PUT", target, signed, unsignedPayload⟩ ⟨951869700, 0⟩ =
        .ok credential.user ∧
      verifier.verify ⟨"PUT", target, signed, unsignedPayload⟩ ⟨951869701, 0⟩ =
        .error .requestExpired := by
  intro credential signer verifier target headers moment
  have presentable : signer.Presentable := by
    constructor
    · decide
    · decide
    · decide
  have textual : headers.Textual := by
    have named : ∀ line, line ∈ headers.lines → fieldName? line.1 = some line.1 := by
      decide
    have shown : ∀ line, line ∈ headers.lines → (valueText? line.2).isSome := by decide
    exact ⟨named, fun line member => Option.isSome_iff_exists.mp (shown line member)⟩
  have known : verifier.credentials.find? signer.accessKey = some credential := by rfl
  have year : moment.HasFourDigitYear := by
    unfold Instant.HasFourDigitYear
    decide
  have text : Visible unsignedPayload := by decide
  obtain ⟨signed, signs, verifies⟩ :=
    sign_verify.1 known rfl rfl presentable "PUT" target textual text year
  refine ⟨signed, signs, ?_, ?_⟩
  · rw [verifies]
    exact if_pos (by decide)
  · rw [verifies]
    exact if_neg (by decide)

end Depot.Auth
