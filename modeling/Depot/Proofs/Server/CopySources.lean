import Depot.Proofs.Server.Provenance

/-!
# Sources of copies

A copy names its source in a header line as bucket and key, escaped by percent
signs, and there are many ways of writing one source (`Spells`): a character may
be escaped or stand for itself, except that a percent sign, a question mark and
what is not ASCII have to be escaped; slashes may stand before it and a version
after a question mark.

**Reading.**  Whatever the spelling, the same bucket and key are read, the first
slash after the bucket separating them (`copySource?_of_spells`).  The version
is cut off before anything is unescaped, and the leading slashes are dropped
after it, so a key can have any characters, a slash at its front among them.

**Copying.**  A path names the same bucket and key with its two segments.  So a
copy takes its bytes from the object that is answered to a reader of the path,
and fails where there is none (`copy_source_is_read`).
-/

namespace Depot

set_option autoImplicit false

open Depot.Auth
open Depot.Http
open Depot.Text
open Depot.Time

namespace Text

theorem ofUInt8_toUInt8 {c : Char} (ascii : c.toNat < 128) : Char.ofUInt8 c.toUInt8 = c :=
  of_ascii (P := fun c => Char.ofUInt8 c.toUInt8 = c) (by decide) ascii

/-- A text of ASCII characters has their codes as its bytes. -/
theorem bytes_ofList_ascii {text : List Char} (ascii : ∀ c, c ∈ text → c.toNat < 128) :
    bytes (String.ofList text) = text.map Char.toUInt8 := by
  have small : ∀ b, b ∈ text.map Char.toUInt8 → b < 128 := by
    intro b member
    obtain ⟨c, known, rfl⟩ := List.mem_map.mp member
    exact of_ascii (P := fun c => c.toUInt8 < 128) (by decide) (ascii c known)
  have same : (text.map Char.toUInt8).map Char.ofUInt8 = text := by
    rw [List.map_map]
    refine (List.map_congr_left ?_).trans (List.map_id text)
    intro c known
    exact ofUInt8_toUInt8 (ascii c known)
  rw [← bytes_ascii small, same]

end Text

namespace Hex

theorem ascii_of_value? {c : Char} {value : UInt8} (digit : value? c = some value) :
    c.toNat < 128 := by
  apply Authorization.ascii_of_hexDigit
  rw [isDigit, digit]
  rfl

end Hex

namespace Percent

/-! ## Escaped text -/

/-- A text in which the bytes of a list are written, each as the ASCII character that it is, when
that is neither the percent sign nor the question mark, or as its two digits after a percent
sign. -/
inductive Escapes : List UInt8 → List Char → Prop
  | nil : Escapes [] []
  | literal {c : Char} {list : List UInt8} {text : List Char} (ascii : c.toNat < 128)
      (noSign : c ≠ '%') (noMark : c ≠ '?') (rest : Escapes list text) :
      Escapes (c.toUInt8 :: list) (c :: text)
  | escaped {b : UInt8} {high low : Char} {list : List UInt8} {text : List Char}
      (first : Hex.value? high = some (b >>> 4)) (second : Hex.value? low = some (b &&& 15))
      (rest : Escapes list text) : Escapes (b :: list) ('%' :: high :: low :: text)

namespace Escapes

variable {list : List UInt8} {text : List Char}

theorem ascii (escapes : Escapes list text) : ∀ c, c ∈ text → c.toNat < 128 := by
  induction escapes with
  | nil => exact nofun
  | literal ascii _ _ _ ih => exact List.forall_mem_cons.mpr ⟨ascii, ih⟩
  | escaped first second _ ih =>
      have sign : '%'.toNat < 128 := by decide
      simp only [List.forall_mem_cons]
      exact ⟨sign, Hex.ascii_of_value? first, Hex.ascii_of_value? second, ih⟩

/-- No question mark stands for itself, and none is a digit. -/
theorem unmarked (escapes : Escapes list text) : '?' ∉ text := by
  have noDigit {c : Char} {value : UInt8} (digit : Hex.value? c = some value) : '?' ≠ c := by
    rintro rfl
    exact absurd digit (by simp [Hex.value?])
  induction escapes with
  | nil => simp
  | literal _ _ noMark _ ih => simp [noMark.symm, ih]
  | escaped first second _ ih => simp [noDigit first, noDigit second, ih]

theorem digit?_toUInt8 {c : Char} {value : UInt8} (digit : Hex.value? c = some value) :
    digit? c.toUInt8 = some value := by
  rw [digit?, ofUInt8_toUInt8 (Hex.ascii_of_value? digit), digit]

/-- Unescaping gives the bytes that are written. -/
theorem decode_map (escapes : Escapes list text) : decode (text.map Char.toUInt8) = list := by
  induction escapes with
  | nil => rfl
  | @literal c list text ascii noSign _ _ ih =>
      have other : c.toUInt8 ≠ sign := by
        intro same
        apply noSign
        rw [← ofUInt8_toUInt8 ascii, same]
        decide
      rw [List.map_cons, decode_cons_of_ne _ other, ih]
  | @escaped b high low list text first second _ ih =>
      have whole : (b >>> 4) * 16 + (b &&& 15) = b := (digit_triple b).2.2
      have front : ('%' :: high :: low :: text).map Char.toUInt8 =
          sign :: high.toUInt8 :: low.toUInt8 :: text.map Char.toUInt8 := rfl
      rw [front, decode_sign_triple _ (digit?_toUInt8 first) (digit?_toUInt8 second), whole, ih]

theorem decodedBytes_eq (escapes : Escapes list text) :
    decodedBytes (String.ofList text) = list := by
  rw [decodedBytes, bytes_ofList_ascii escapes.ascii, escapes.decode_map]

/-- Slashes stand for themselves. -/
theorem slashes (escapes : Escapes list text) (count : Nat) :
    Escapes (List.replicate count 47 ++ list) (List.replicate count '/' ++ text) := by
  induction count with
  | zero => exact escapes
  | succ count ih =>
      rw [List.replicate_succ, List.replicate_succ]
      exact .literal (c := '/') (by decide) (by decide) (by decide) ih

end Escapes

end Percent

namespace Server

/-! ## Reading a source -/

namespace S3

/-- The ways of writing a bucket and a key as the source of a copy. -/
inductive Spells (bucket key : String) : String → Prop
  | spelled (slashes : Nat) {path version : List Char}
      (escapes : Percent.Escapes (bytes (bucket ++ "/" ++ key)) path)
      (apart : version = [] ∨ ∃ name, version = '?' :: name) :
      Spells bucket key (String.ofList (List.replicate slashes '/' ++ path ++ version))

variable {bucket key text : String}

/-- What stands before the version is unescaped, and nothing of it is lost. -/
theorem Spells.path_decoded (spells : Spells bucket key text) :
    ∃ slashes, Percent.decodedText?
        (String.ofList ((cutAt '?' text.toList).elim text.toList Prod.fst)) =
      some (String.ofList (List.replicate slashes '/' ++ (bucket ++ "/" ++ key).toList)) := by
  obtain ⟨slashes, escapes, apart⟩ := spells
  have leading := escapes.slashes slashes
  have front : ∀ path : List Char, '?' ∉ path → ∀ version,
      version = [] ∨ (∃ name, version = '?' :: name) →
      (cutAt '?' (path ++ version)).elim (path ++ version) Prod.fst = path := by
    rintro path clean version (rfl | ⟨name, rfl⟩)
    · rw [List.append_nil, cutAt_eq_none clean]
      rfl
    · rw [cutAt_append clean]
      rfl
  have slashBytes : bytes (String.ofList (List.replicate slashes '/')) =
      List.replicate slashes 47 := by
    rw [bytes_ofList_ascii, List.map_replicate]
    · rfl
    · intro c member
      rw [List.eq_of_mem_replicate member]
      decide
  refine ⟨slashes, ?_⟩
  rw [String.toList_ofList, front _ leading.unmarked _ apart, Percent.decodedText?,
    leading.decodedBytes_eq, ← slashBytes, ← bytes_append, ofBytes?_bytes, String.ofList_append,
    String.ofList_toList]

/-- **A source is read, however it is written.** -/
theorem copySource?_of_spells (named : Name.checkBucket bucket = .ok ()) (filled : key ≠ "")
    (spells : Spells bucket key text) : copySource? text = some (bucket, key) := by
  obtain ⟨slashes, read⟩ := spells.path_decoded
  have parts : (bucket ++ "/" ++ key).toList = bucket.toList ++ '/' :: key.toList := by simp
  have stays : ∀ c, (bucket.toList ++ '/' :: key.toList).head? = some c → (c == '/') = false := by
    intro c first
    have some : bucket.toList ≠ [] := by simpa using Name.bucket_ne_empty named
    rw [List.head?_append_of_ne_nil _ some] at first
    have member : c ∈ bucket.toList := List.mem_of_mem_head? first
    have differs : c ≠ '/' := fun same => Name.slashless_bucket named (same ▸ member)
    simpa using differs
  have trimmed :
      trimStart (· == '/') (List.replicate slashes '/' ++ (bucket ++ "/" ++ key).toList) =
      bucket.toList ++ '/' :: key.toList := by
    rw [trimStart, List.dropWhile_append_of_pos, parts, dropWhile_eq_self stays]
    intro c member
    rw [List.eq_of_mem_replicate member]
    decide
  have bucketFilled : bucket.toList.isEmpty = false := by simpa using Name.bucket_ne_empty named
  have keyFilled : key.toList.isEmpty = false := by simpa using filled
  unfold copySource?
  simp only [read, Option.bind_eq_bind, Option.bind_some, String.toList_ofList, trimmed,
    cutAt_append (Name.slashless_bucket named), bucketFilled, keyFilled, Bool.or_self,
    Bool.false_eq_true, if_false, String.ofList_toList]

/-- The object that a header line names, however it is written. -/
theorem readCopySource_of_spells (named : Name.checkBucket bucket = .ok ()) (filled : key ≠ "")
    (spells : Spells bucket key text) {value : FieldValue} (sent : valueText? value = some text)
    (target : Address) : readCopySource target value = .ok ⟨target.owner, bucket, key⟩ := by
  unfold readCopySource
  rw [sent, Option.bind_some, copySource?_of_spells named filled spells]
  exact Address.of_named named

end S3

end Server

/-! ## Copies in a sound store -/

namespace Store.Sound

variable {s : Store} (sound : s.Sound)

include sound

/-- A copy is stored under an identifier when there is content to copy. -/
theorem outcome_copy_eq (source : String) {destination : String}
    (valid : Name.checkIdentifier destination = .ok ()) (attributes? : Option Attributes)
    (now : Instant) :
    outcome (copy source destination attributes? now) s =
      match s.contentUnder source with
      | .ok content =>
          (.ok (objectOf destination (s.draft content.bytes)
              (attributes?.getD content.object.attributes) now),
            s.stored destination (attributes?.getD content.object.attributes) content.bytes now)
      | .error fault => (.error fault, s) := by
  rw [outcome_copy, valid, contentUnder]
  cases Name.checkIdentifier source with
  | error fault => rfl
  | ok _ =>
      dsimp only
      rw [sound.peeked, sound.fetched]
      cases found : s.objects.find? source with
      | none => rfl
      | some row =>
          dsimp only
          rw [sound.target_of_copy found, sound.joined_content found, sound.placed]
          exact sound.outcome_commit destination _ _ now

omit sound in
/-- Nothing is copied to an identifier that cannot be stored. -/
theorem outcome_copy_invalid (source : String) {destination : String}
    (invalid : Name.checkIdentifier destination ≠ .ok ()) (attributes? : Option Attributes)
    (now : Instant) :
    ∃ fault, outcome (copy source destination attributes? now) s = (.error fault, s) := by
  rw [outcome_copy]
  cases Name.checkIdentifier source with
  | error fault => exact ⟨_, rfl⟩
  | ok _ =>
      cases checked : Name.checkIdentifier destination with
      | error fault => exact ⟨_, rfl⟩
      | ok _ => exact absurd checked invalid

/-- What has been stored is found. -/
theorem contentUnder_stored {identifier : String}
    (valid : Name.checkIdentifier identifier = .ok ()) (attributes : Attributes)
    (bytes : ByteArray) (now : Instant) :
    ((s.stored identifier attributes bytes now).contentUnder identifier).map Content.bytes =
      .ok bytes := by
  have after := sound.stored valid attributes bytes now
  have found : (s.stored identifier attributes bytes now).objects.find? identifier =
      some (rowOf (s.draft bytes) attributes now) := Table.find?_insert_self _ _ _
  have held := find?_shelf_objects (s.stored identifier attributes bytes now) identifier
  rw [sound.shelf_stored, found] at held
  have record := Option.some.inj (held.symm.trans (Table.find?_insert_self _ _ _))
  rw [after.contentUnder_of_found found]
  exact congrArg (fun record : Record => Except.ok record.bytes) record

end Store.Sound

namespace Server

/-! ## Copies that are answered -/

/-- A user reads the object that the segments of a path name, and all of it. -/
structure ReadsAt (settings : Settings) (occasion : Occasion) (request : Request) (user : User)
    (bucket key : String) : Prop where
  authenticated : authenticatedAs settings occasion request = some user
  method : request.method = "GET"
  place : ∃ sentBucket sentKey,
    Place.ofPath? request.target.path = some (.object sentBucket sentKey) ∧
      Percent.decodedText? sentBucket = some bucket ∧ Percent.decodedText? sentKey = some key
  about : AboutObject request
  unranged : request.headers.text? "range" = none

/-- A user copies an object, whose name is written in some way, to a key. -/
structure CopiesTo (settings : Settings) (occasion : Occasion) (request : Request) (user : User)
    (source bucket key : String) : Prop where
  asks : AsksFor settings occasion request user (.putObject bucket key)
  about : AboutObject request
  source : request.headers.text? "x-amz-copy-source" = some source

/-- A key can be copied to, with what a request says of the attributes. -/
structure TakesCopy (user : User) (bucket key : String) (headers : Headers) : Prop where
  named : Name.checkBucket bucket = .ok ()
  valid : Name.checkIdentifier (Name.identifier user.userId bucket key) = .ok ()
  directed : ∃ attributes?,
    S3.copyAttributes ⟨user.userId, bucket, key⟩ headers = .ok attributes?

section

variable {settings : Settings} {s : Store} {occasion : Occasion} {request : Request} {user : User}
  {bucket key : String}

theorem ReadsAt.asksFor (reads : ReadsAt settings occasion request user bucket key) :
    AsksFor settings occasion request user (.getObject bucket key) := by
  refine ⟨reads.authenticated, ?_⟩
  obtain ⟨sentBucket, sentKey, place, bucketText, keyText⟩ := reads.place
  rw [Route.of, place, reads.method]
  simp [Route.atPlace, Place.methods, Route.withObject, Route.withText, bucketText, keyText]

theorem ReadsAt.respond_eq (reads : ReadsAt settings occasion request user bucket key)
    (sound : s.Sound) (named : Name.checkBucket bucket = .ok ()) :
    ((respond settings occasion request).run s).1 =
      finish "GET" (.endpoint (.getObject bucket key))
        (Discreet.rendered (S3Fault.response · occasion.requestId)
          (((s.contentUnder (Name.identifier user.userId bucket key)).mapError
            (S3Fault.ofStore · ("/" ++ bucket ++ "/" ++ key))).map fun content =>
              S3.objectResponse 200 content.object content.bytes)) := by
  rw [respond_getObject sound reads.asksFor reads.about, S3.answerAsked_unranged reads.unranged,
    S3.found_of_named named]

/-- A reader is answered the content that is found. -/
theorem ReadsAt.answered (reads : ReadsAt settings occasion request user bucket key)
    (sound : s.Sound) (named : Name.checkBucket bucket = .ok ()) {content : Content}
    (found : s.contentUnder (Name.identifier user.userId bucket key) = .ok content) :
    ((respond settings occasion request).run s).1.status = 200 ∧
      ((respond settings occasion request).run s).1.body = content.bytes := by
  rw [reads.respond_eq sound named, found]
  exact ⟨finish_status .., body_finish (by decide) _ _⟩

theorem ReadsAt.refused (reads : ReadsAt settings occasion request user bucket key)
    (sound : s.Sound) (named : Name.checkBucket bucket = .ok ()) {fault : StoreFault}
    (missing : s.contentUnder (Name.identifier user.userId bucket key) = .error fault) :
    IsError ((respond settings occasion request).run s).1.status := by
  rw [reads.respond_eq sound named, missing, finish_status]
  exact S3Fault.isError_ofStore _ fault

/-- An operation that ends with an error and leaves the store as it was. -/
def FailsIn (s : Store) (ended : Except S3Fault Response × Store) : Prop :=
  ∃ fault : S3Fault, fault.IsError ∧ ended = (.error fault, s)

namespace S3

variable {source target : Address} {value : FieldValue} {headers : Headers}

/-- What a copy comes to once its source and its attributes are known. -/
theorem outcome_copyObject (s : Store) (now : Instant)
    (known : readCopySource target value = .ok source)
    {attributes? : Option Attributes} (directed : copyAttributes target headers = .ok attributes?) :
    outcome (copyObject target value headers now) s =
      match outcome (Store.copy source.identifier target.identifier attributes? now) s with
      | (.ok object, t) => (.ok (Response.xml 200 (Xml.copyDocument object)), t)
      | (.error fault, t) => (.error (copyFault source target fault), t) := by
  unfold copyObject
  rw [outcome_bind, outcome_liftExcept, known]
  dsimp only
  rw [outcome_bind, outcome_liftExcept, directed]
  dsimp only
  rw [outcome_bind, outcome_adapt]
  obtain ⟨_ | _, t⟩ :=
    outcome (Store.copy source.identifier target.identifier attributes? now) s <;> rfl

/-- A copy to an identifier that can be stored is stored when there is content to copy. -/
theorem outcome_copyObject_of_valid (sound : s.Sound) (now : Instant)
    (known : readCopySource target value = .ok source) {attributes? : Option Attributes}
    (directed : copyAttributes target headers = .ok attributes?)
    (valid : Name.checkIdentifier target.identifier = .ok ()) :
    outcome (copyObject target value headers now) s =
      match s.contentUnder source.identifier with
      | .ok content =>
          (.ok (Response.xml 200 (Xml.copyDocument (Store.objectOf target.identifier
              (s.draft content.bytes) (attributes?.getD content.object.attributes) now))),
            s.stored target.identifier (attributes?.getD content.object.attributes) content.bytes
              now)
      | .error fault => (.error (copyFault source target fault), s) := by
  rw [outcome_copyObject s now known directed, sound.outcome_copy_eq _ valid]
  cases s.contentUnder source.identifier <;> rfl

theorem fails_copyObject (now : Instant) (known : readCopySource target value = .ok source)
    (refused : (∀ attributes?, copyAttributes target headers ≠ .ok attributes?) ∨
      Name.checkIdentifier target.identifier ≠ .ok ()) :
    FailsIn s (outcome (copyObject target value headers now) s) := by
  cases directed : copyAttributes target headers with
  | error fault =>
      refine ⟨fault, isError_of_copyAttributes directed, ?_⟩
      unfold copyObject
      rw [outcome_bind, outcome_liftExcept, known]
      dsimp only
      rw [outcome_bind, outcome_liftExcept, directed]
  | ok attributes? =>
      have invalid := refused.resolve_left fun none => none attributes? directed
      obtain ⟨fault, ended⟩ :=
        Store.Sound.outcome_copy_invalid (s := s) source.identifier invalid attributes? now
      refine ⟨_, isError_copyFault source target fault, ?_⟩
      rw [outcome_copyObject s now known directed, ended]

end S3

/-- What a request to copy is answered, by what the copy comes to. -/
theorem CopiesTo.respond_eq {source : String}
    (copies : CopiesTo settings occasion request user source bucket key) (s : Store) :
    ∃ value, valueText? value = some source ∧
      (respond settings occasion request).run s =
        let ended := outcome (do
          let target ← S3.Address.of user.userId bucket key
          S3.copyObject target value request.headers occasion.now : S3.Action Response) s
        (finish request.method (.endpoint (.putObject bucket key))
          (Discreet.rendered (S3Fault.response · occasion.requestId) ended.1), ended.2) := by
  obtain ⟨body, -, responds⟩ := respond_run copies.asks.authenticated copies.asks.leads
  obtain ⟨value, sent, shown⟩ := Option.bind_eq_some_iff.mp copies.source
  refine ⟨value, shown, ?_⟩
  have answers : answerUser settings occasion request body user (.putObject bucket key) =
      answerS3 occasion (S3.putObject user bucket key (parametersOf request) request.headers body
        occasion.now) :=
    withQuery_of_once copies.about.once fun params =>
      answerS3 occasion (S3.putObject user bucket key params request.headers body occasion.now)
  rw [responds, answers, answerS3, Discreet.run_answering, S3.putObject, copies.about.own, sent]

/-- A copy is stored as what is found under the name of its source; otherwise it fails. -/
theorem S3.outcome_copy_of_spells {source : String} (sound : s.Sound) (user : User)
    (bucket' key' : String) (named : Name.checkBucket bucket = .ok ()) (filled : key ≠ "")
    (spells : Spells bucket key source) {value : FieldValue}
    (shown : valueText? value = some source) (headers : Headers) (now : Instant) :
    let ended := outcome (do
      let target ← Address.of user.userId bucket' key'
      copyObject target value headers now : Action Response) s
    (∀ content, s.contentUnder (Name.identifier user.userId bucket key) = .ok content →
      TakesCopy user bucket' key' headers →
      ∃ object attributes, ended = (.ok (Response.xml 200 (Xml.copyDocument object)),
        s.stored (Name.identifier user.userId bucket' key') attributes content.bytes now)) ∧
    ((∀ content, s.contentUnder (Name.identifier user.userId bucket key) ≠ .ok content) ∨
        ¬ TakesCopy user bucket' key' headers → FailsIn s ended) := by
  intro ended
  have known := readCopySource_of_spells named filled spells shown ⟨user.userId, bucket', key'⟩
  have begun (named' : Name.checkBucket bucket' = .ok ()) :
      ended = outcome (copyObject ⟨user.userId, bucket', key'⟩ value headers now) s := by
    show outcome _ s = _
    rw [outcome_bind, outcome_liftExcept, Address.of_named named']
  constructor
  · intro content found takes
    obtain ⟨attributes?, directed⟩ := takes.directed
    have done := outcome_copyObject_of_valid sound now known directed takes.valid
    rw [Address.identifier, found] at done
    exact ⟨_, _, (begun takes.named).trans done⟩
  · intro refused
    cases checked : Name.checkBucket bucket' with
    | error fault =>
        have unnamed : Address.of user.userId bucket' key' =
            .error (.invalidBucketName fault.reason ("/" ++ bucket' ++ "/" ++ key')) := by
          rw [Address.of, checked]
          rfl
        refine ⟨_, Address.isError_of unnamed, ?_⟩
        show outcome _ s = _
        rw [outcome_bind, outcome_liftExcept, unnamed]
    | ok _ =>
        rw [begun checked]
        by_cases takes : TakesCopy user bucket' key' headers
        · have absent := refused.resolve_right fun not => not takes
          obtain ⟨attributes?, directed⟩ := takes.directed
          have done := outcome_copyObject_of_valid sound now known directed takes.valid
          rw [Address.identifier] at done
          cases found : s.contentUnder (Name.identifier user.userId bucket key) with
          | ok content => exact absurd found (absent content)
          | error fault =>
              rw [found] at done
              exact ⟨_, isError_copyFault _ _ fault, done⟩
        · refine fails_copyObject now known ?_
          by_cases valid : Name.checkIdentifier (Name.identifier user.userId bucket' key') = .ok ()
          · left
            intro attributes? directed
            exact takes ⟨checked, valid, attributes?, directed⟩
          · exact .inr valid

/-- A copy is answered as it is stored. -/
theorem CopiesTo.answered {source bucket' key' : String}
    (copies : CopiesTo settings occasion request user source bucket' key') (sound : s.Sound)
    (named : Name.checkBucket bucket = .ok ()) (filled : key ≠ "")
    (spells : S3.Spells bucket key source) :
    let done := (respond settings occasion request).run s
    (∀ content, s.contentUnder (Name.identifier user.userId bucket key) = .ok content →
      TakesCopy user bucket' key' request.headers →
      done.1.status = 200 ∧
        (done.2.contentUnder (Name.identifier user.userId bucket' key')).map Content.bytes =
          .ok content.bytes) ∧
    ((∀ content, s.contentUnder (Name.identifier user.userId bucket key) ≠ .ok content) ∨
        ¬ TakesCopy user bucket' key' request.headers →
      IsError done.1.status ∧ done.2 = s) := by
  intro done
  obtain ⟨value, shown, responds⟩ := copies.respond_eq s
  obtain ⟨stores, fails⟩ := S3.outcome_copy_of_spells sound user bucket' key' named filled spells
    shown request.headers occasion.now
  constructor
  · intro content found takes
    obtain ⟨object, attributes, ended⟩ := stores content found takes
    rw [show done = _ from responds, ended]
    exact ⟨finish_status .., sound.contentUnder_stored takes.valid attributes content.bytes _⟩
  · intro refused
    obtain ⟨fault, error, ended⟩ := fails refused
    rw [show done = _ from responds, ended]
    dsimp only
    refine ⟨?_, rfl⟩
    rw [finish_status]
    exact error

/-- **A copy reads what a reader of its source is answered.**  Let the source of a copy be written
in any way.  Then it is read as the bucket and the key that are written; and in every state that a
server comes to, a copy to a key that can take it stores the bytes that are answered to a reader of
a path whose segments name this bucket and this key, while a copy of what such a reader does not
find, or to a key that cannot take it, fails and changes nothing. -/
theorem copy_source_is_read {bucket key source : String}
    (named : Name.checkBucket bucket = .ok ()) (filled : key ≠ "")
    (spells : S3.Spells bucket key source) :
    S3.copySource? source = some (bucket, key) ∧
      ∀ (settings : Settings) (s : Store), Reached settings s →
        ∀ occasion occasion' get put user bucket' key',
          ReadsAt settings occasion get user bucket key →
          CopiesTo settings occasion' put user source bucket' key' →
          let got := ((respond settings occasion get).run s).1
          let done := (respond settings occasion' put).run s
          (got.status = 200 → TakesCopy user bucket' key' put.headers →
            done.1.status = 200 ∧
              (done.2.contentUnder (Name.identifier user.userId bucket' key')).map Content.bytes =
                .ok got.body) ∧
          (got.status ≠ 200 ∨ ¬ TakesCopy user bucket' key' put.headers →
            IsError done.1.status ∧ done.2 = s) := by
  refine ⟨S3.copySource?_of_spells named filled spells, ?_⟩
  intro settings s reached occasion occasion' get put user bucket' key' reads copies
  have sound := reached.sound
  have copied := copies.answered sound named filled spells
  dsimp only at copied ⊢
  obtain ⟨stores, fails⟩ := copied
  cases found : s.contentUnder (Name.identifier user.userId bucket key) with
  | ok content =>
      obtain ⟨status, body⟩ := reads.answered sound named found
      constructor
      · intro _ takes
        rw [body]
        exact stores content found takes
      · intro refused
        exact fails (.inr (refused.resolve_left fun other => other status))
  | error fault =>
      have refused := reads.refused sound named found
      constructor
      · intro well
        exact absurd refused (not_isError_of_status well)
      · intro _
        apply fails
        left
        intro content known
        rw [found] at known
        cases known

end

namespace KeyClient

/-- One way of writing the object that the client has put. -/
def source : String := "//%70ut%2Fk?versionId=1"

theorem spells_source : S3.Spells "put" "k" source := by
  have written : bytes ("put" ++ "/" ++ "k") = [112, 117, 116, 47, 107] := by decide
  have escapes : Percent.Escapes (bytes ("put" ++ "/" ++ "k"))
      ['%', '7', '0', 'u', 't', '%', '2', 'F', 'k'] := by
    rw [written]
    refine .escaped (by decide) (by decide) ?_
    refine .literal (c := 'u') (by decide) (by decide) (by decide) ?_
    refine .literal (c := 't') (by decide) (by decide) (by decide) ?_
    refine .escaped (by decide) (by decide) ?_
    exact .literal (c := 'k') (by decide) (by decide) (by decide) .nil
  have whole : source = String.ofList (List.replicate 2 '/' ++
      ['%', '7', '0', 'u', 't', '%', '2', 'F', 'k'] ++ '?' :: "versionId=1".toList) := by
    decide
  rw [whole]
  exact .spelled 2 escapes (.inr ⟨_, rfl⟩)

def reading : Request := SignedClient.request "GET" ⟨none, "/s3/p%75t/%6b", none⟩ [] []

def copying : Request :=
  SignedClient.request "PUT" ⟨none, "/s3/put/j", none⟩ [("x-amz-copy-source", source.toUTF8)] []

theorem reads_reading : ReadsAt settings occasion reading credential.user "put" "k" := by
  have asks : AsksFor settings occasion reading credential.user (.getObject "put" "k") :=
    SignedClient.asksFor (by decide +kernel) (by decide) rfl _
  have place : Place.ofPath? "/s3/p%75t/%6b" = some (.object "p%75t" "%6b") := by decide
  have unranged : reading.headers.get? "range" = none :=
    SignedClient.get?_request "GET" ⟨none, "/s3/p%75t/%6b", none⟩ [] [] (by decide)
  refine ⟨asks.authenticated, rfl, ⟨_, _, place, ?_, ?_⟩, .of_no_query rfl, ?_⟩
  · decide
  · decide
  · rw [Headers.text?, unranged]
    rfl

theorem get?_copying {name : String} (other : name ∉ ["authorization", digestHeader, dateHeader]) :
    copying.headers.get? name = (Headers.mk [("x-amz-copy-source", source.toUTF8)]).get? name :=
  SignedClient.get?_request "PUT" ⟨none, "/s3/put/j", none⟩ _ [] other

theorem copies_copying : CopiesTo settings occasion copying credential.user source "put" "j" := by
  have asks : AsksFor settings occasion copying credential.user (.putObject "put" "j") :=
    SignedClient.asksFor (by decide +kernel) (by decide) rfl _
  have sent : copying.headers.get? "x-amz-copy-source" = some source.toUTF8 :=
    get?_copying (by decide)
  have shown : valueText? source.toUTF8 = some source := by decide
  refine ⟨asks, .of_no_query rfl, ?_⟩
  rw [Headers.text?, sent, Option.bind_some, shown]

theorem takes_copying : TakesCopy credential.user "put" "j" copying.headers := by
  have undirected : copying.headers.get? "x-amz-metadata-directive" = none :=
    get?_copying (by decide)
  refine ⟨rfl, rfl, none, ?_⟩
  rw [S3.copyAttributes, undirected]

end KeyClient

/-- The object that has been put is read, and copied to another key. -/
theorem copied_put :
    S3.copySource? KeyClient.source = some ("put", "k") ∧
      ((respond KeyClient.settings KeyClient.occasion KeyClient.reading).run
        KeyClient.stored).1.status = 200 ∧
      ((respond KeyClient.settings KeyClient.occasion KeyClient.copying).run
        KeyClient.stored).1.status = 200 := by
  have reached : Reached KeyClient.settings KeyClient.stored :=
    .request .start KeyClient.occasion KeyClient.put
  have named : Name.checkBucket "put" = .ok () := rfl
  have filled : "k" ≠ "" := by decide
  have held : (KeyClient.stored.objects.find?
      (Name.identifier KeyClient.credential.user.userId "put" "k")).isSome := by decide +kernel
  obtain ⟨row, found⟩ := Option.isSome_iff_exists.mp held
  have answered := KeyClient.reads_reading.answered reached.sound named
    (reached.sound.contentUnder_of_found found)
  obtain ⟨read, copied⟩ := copy_source_is_read named filled KeyClient.spells_source
  obtain ⟨copies, -⟩ := copied _ _ reached _ _ _ _ _ _ _ KeyClient.reads_reading
    KeyClient.copies_copying
  exact ⟨read, answered.1, (copies answered.1 KeyClient.takes_copying).1⟩

end Server

end Depot
