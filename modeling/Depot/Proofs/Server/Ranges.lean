import Depot.Proofs.Server.Descriptions
import Depot.Proofs.Server.Objects

/-!
# Ranges of an object

What a range header asks of an object is decided by its size alone, and what is
asked lies within the object (`RangeRequest.last_lt_of_ofText`): the ends are in
order and the last byte is one of the object, so that no difference of the two
is negative and no length exceeds the size.

`ranges_answered` says that exactly the bytes asked for are answered, whichever
way the object is read, and that asking for the headers alone is answered with
those of the whole.
-/

namespace Depot

set_option autoImplicit false

open Depot.Auth
open Depot.Http
open Depot.Text
open Depot.Time

namespace Http

/-! ## Ranges within an object -/

theorem rangeFrom_last_lt {size first : Nat} {last? : Option Nat} {range : ByteRange}
    (known : rangeFrom size first last? = .part range) : range.last < size := by
  unfold rangeFrom at known
  dsimp only at known
  split at known
  · next fits =>
      split at known
      · next below =>
          cases known
          exact below
      · cases known
        show size - 1 < size
        omega
  · cases known

theorem rangeAtEnd_last_lt {size count : Nat} {range : ByteRange}
    (known : rangeAtEnd size count = .part range) : range.last < size := by
  unfold rangeAtEnd at known
  split at known
  · next some =>
      cases known
      show size - 1 < size
      omega
  · cases known

/-- A range that is asked for lies within the object. -/
theorem RangeRequest.last_lt_of_ofText {text : String} {size : Nat} {range : ByteRange}
    (known : RangeRequest.ofText text size = .part range) : range.last < size := by
  unfold RangeRequest.ofText at known
  split at known
  · cases known
  · split at known
    · cases known
    · split at known
      · cases known
      · split at known
        · split at known
          · exact rangeAtEnd_last_lt known
          · cases known
        · split at known
          · cases known
          · split at known
            · exact rangeFrom_last_lt known
            · split at known
              · exact rangeFrom_last_lt known
              · cases known

/-- A range within an object is not longer than the object. -/
theorem ByteRange.length_le {range : ByteRange} {size : Nat} (below : range.last < size) :
    range.length ≤ size := by
  have ordered := range.first_le_last
  unfold ByteRange.length
  omega

/-- What stands in a range is as long as the range. -/
theorem size_extract_range {range : ByteRange} {bytes : ByteArray}
    (below : range.last < bytes.size) :
    (bytes.extract range.first (range.last + 1)).size = range.length := by
  have ordered := range.first_le_last
  rw [ByteArray.size_extract, ByteRange.length]
  omega

end Http

namespace Server

/-- What the headers of a request ask of an object of `size` bytes. -/
def rangeAsked (headers : Headers) (size : Nat) : RangeRequest :=
  match headers.text? "range" with
  | some text => RangeRequest.ofText text size
  | none => .whole

theorem last_lt_of_rangeAsked {headers : Headers} {size : Nat} {range : ByteRange}
    (asked : rangeAsked headers size = .part range) : range.last < size := by
  unfold rangeAsked at asked
  split at asked
  · exact RangeRequest.last_lt_of_ofText asked
  · cases asked

/-! ## Answers -/

namespace S3

/-- The response with a range of an object. -/
def rangeResponse (content : Content) (range : ByteRange) : Response :=
  ((objectResponse 206 content.object
        (content.bytes.extract range.first (range.last + 1))).withHeader
      "content-length" (decimal range.length)).withHeader "content-range"
    ("bytes " ++ decimal range.first ++ "-" ++ decimal range.last ++ "/" ++
      decimal content.bytes.size)

/-- What is answered with the content of an object, given what is asked of it. -/
def answerAsked (resource : String) (content : Content) :
    RangeRequest → Except S3Fault Response
  | .whole => .ok (objectResponse 200 content.object content.bytes)
  | .part range => .ok (rangeResponse content range)
  | .unsatisfiable => .error (.invalidRange resource)

/-- Where no range is asked for, what is found is answered as a whole. -/
theorem answerAsked_unranged {headers : Headers} (unranged : headers.text? "range" = none)
    (found : Except S3Fault Content) (resource : String) :
    (do
        let content ← found
        answerAsked resource content (rangeAsked headers content.bytes.size)) =
      found.map fun content => objectResponse 200 content.object content.bytes := by
  unfold rangeAsked
  rw [unranged]
  cases found <;> rfl

section

variable {s : Store} (sound : s.Sound)

include sound

/-- A range is cut out of the bytes that are there. -/
theorem outcome_partialObject {target : Address} {content : Content} {range : ByteRange}
    (there : s.contentUnder target.identifier = .ok content)
    (below : range.last < content.bytes.size) :
    outcome (partialObject target range) s = (.ok (rangeResponse content range), s) := by
  obtain ⟨row, found, rfl⟩ := sound.contentUnder_eq_ok_iff.mp there
  have size := sound.size_contentAt found
  have ordered := range.first_le_last
  unfold partialObject
  rw [outcome_bind, Address.fromStore, fromStore, outcome_adapt, Store.outcome_peek_eq, there]
  dsimp only [Except.mapError]
  rw [size, Int.toNat_natCast, if_neg (by omega), Nat.min_eq_left (by omega : range.last ≤ _ - 1),
    show range.first + (range.last - range.first + 1) = range.last + 1 by omega]
  rfl

theorem outcome_getObject {user : User} {bucket key : String} {params : List Parameter}
    (own : valueOf? params "uploadId" = none) (headers : Headers) :
    outcome (getObject user bucket key params headers) s =
      (do
          let content ← found s user bucket key
          answerAsked ("/" ++ bucket ++ "/" ++ key) content
            (rangeAsked headers content.bytes.size), s) := by
  unfold getObject
  rw [outcome_bind, outcome_liftExcept]
  cases known : Address.of user.userId bucket key with
  | error fault =>
      rw [found, known]
      rfl
  | ok target =>
      have looks : found s user bucket key =
          (s.contentUnder target.identifier).mapError (S3Fault.ofStore · target.resource) := by
        rw [found, known]
        rfl
      have resource : target.resource = "/" ++ bucket ++ "/" ++ key := by
        unfold Address.of at known
        dsimp only at known
        split at known
        · cases known
          rfl
        · cases known
      dsimp only
      rw [own]
      dsimp only
      rw [outcome_bind, Address.fromStore, fromStore, outcome_adapt, sound.outcome_head_eq, looks]
      cases there : s.contentUnder target.identifier with
      | error fault => rfl
      | ok content =>
          have whole : outcome (wholeObject target content.object.size) s =
              (.ok (objectResponse 200 content.object content.bytes), s) := by
            rw [outcome_wholeObject sound, there]
            rfl
          have size : content.object.size.toNat = content.bytes.size := by
            obtain ⟨row, found, rfl⟩ := sound.contentUnder_eq_ok_iff.mp there
            rw [sound.size_contentAt found, Int.toNat_natCast]
          dsimp only [Except.map, Except.mapError]
          show _ = (answerAsked _ content (rangeAsked headers content.bytes.size), s)
          unfold rangeAsked
          rw [size, ← resource]
          cases headers.text? "range" with
          | none => exact whole
          | some text =>
              cases asked : RangeRequest.ofText text content.bytes.size with
              | whole => simp only [asked]; exact whole
              | part range =>
                  simp only [asked]
                  exact outcome_partialObject sound there (RangeRequest.last_lt_of_ofText asked)
              | unsatisfiable => simp only [asked]; rfl

end

end S3

/-! ## Responses as they are sent -/

/-- The headers of a response that is sent are its own, with the length of its body. -/
theorem headers_finish_eq (method : String) (endpoint : Endpoint) (response : Response) :
    (finish method (.endpoint endpoint) response).headers = response.withLength.headers := by
  unfold finish
  dsimp only [Route.allowed?]
  split <;> rfl

/-- Of a response only the length of its body matters for the headers. -/
theorem headers_withLength_congr {response response' : Response}
    (headers : response.headers = response'.headers)
    (size : response.body.size = response'.body.size) :
    response.withLength.headers = response'.withLength.headers := by
  unfold Response.withLength
  rw [headers, size]
  split
  · exact headers
  · show response.headers.insertText _ _ = response'.headers.insertText _ _
    rw [headers]

namespace S3

/-- An object is sent with its own length. -/
theorem has_objectResponse (status : Nat) (object : Object) (bytes : ByteArray) :
    (objectResponse status object bytes).headers.has "content-length" := by
  have length : (objectResponse status object bytes).headers.getAll "content-length" =
      [(decimal object.size.toNat).toUTF8] :=
    (Headers.getAll_insertText_of_ne _ "accept-ranges" (by decide) "bytes").trans
      (getAll_describe_length object)
  exact Headers.has_of_getAll _ _ (length ▸ List.mem_cons_self)

theorem status_objectResponse (status : Nat) (object : Object) (bytes : ByteArray) :
    (objectResponse status object bytes).status = status := rfl

/-- The headers of an object do not depend on which of its bytes are sent. -/
theorem headers_objectResponse (status : Nat) (object : Object) (bytes : ByteArray) :
    (objectResponse status object bytes).withLength.headers =
      (describe Headers.empty object).insertText "accept-ranges" "bytes" := by
  rw [Response.withLength, if_pos (has_objectResponse status object bytes)]
  rfl

theorem getAll_rangeResponse_length (content : Content) (range : ByteRange) :
    (rangeResponse content range).headers.getAll "content-length" =
      [(decimal range.length).toUTF8] := by
  show (((describe Headers.empty content.object).insertText _ _).insertText _ _ |>.insertText _ _
    |>.getAll _) = _
  rw [Headers.getAll_insertText_of_ne _ "content-range" (by decide),
    Headers.getAll_insertText_self _ _ (visible_decimal _)]

theorem getAll_rangeResponse_range (content : Content) (range : ByteRange) :
    (rangeResponse content range).headers.getAll "content-range" =
      [("bytes " ++ decimal range.first ++ "-" ++ decimal range.last ++ "/" ++
        decimal content.bytes.size).toUTF8] := by
  have marks : Visible "bytes " ∧ Visible "-" ∧ Visible "/" := by decide
  obtain ⟨lead, dash, slash⟩ := marks
  refine Headers.getAll_insertText_self _ _ ?_
  exact ((((lead.append (visible_decimal _)).append dash).append (visible_decimal _)).append
    slash).append (visible_decimal _)

theorem status_response (fault : S3Fault) (requestId : String) :
    (fault.response requestId).status = fault.status := rfl

theorem headers_response (fault : S3Fault) (requestId : String) :
    (fault.response requestId).headers =
      Headers.empty.insertText "content-type" "application/xml" := rfl

/-- The length of a document that reports a fault depends on that of the name of the request. -/
theorem size_response (fault : S3Fault) {requestId requestId' : String}
    (size : requestId.utf8ByteSize = requestId'.utf8ByteSize) :
    (fault.response requestId).body.size = (fault.response requestId').body.size := by
  show (Xml.faultDocument _ _ _ requestId).utf8ByteSize =
    (Xml.faultDocument _ _ _ requestId').utf8ByteSize
  unfold Xml.faultDocument Xml.element
  simp only [String.utf8ByteSize_append, size]

end S3

section

variable {settings : Settings} {s : Store} (sound : s.Sound) {occasion : Occasion}
  {request : Request} {user : User} {bucket key : String}

include sound

theorem respond_getObject (asks : AsksFor settings occasion request user (.getObject bucket key))
    (about : AboutObject request) :
    (respond settings occasion request).run s =
      (finish "GET" (.endpoint (.getObject bucket key))
        (Discreet.rendered (S3Fault.response · occasion.requestId) (do
          let content ← S3.found s user bucket key
          S3.answerAsked ("/" ++ bucket ++ "/" ++ key) content
            (rangeAsked request.headers content.bytes.size))), s) := by
  obtain ⟨body, -, responds⟩ := respond_run asks.authenticated asks.leads
  have answers : answerUser settings occasion request body user (.getObject bucket key) =
      answerS3 occasion (S3.getObject user bucket key (parametersOf request) request.headers) :=
    withQuery_of_once about.once fun params =>
      answerS3 occasion (S3.getObject user bucket key params request.headers)
  rw [responds, Route.method_of_endpoint asks.leads rfl, answers, answerS3,
    Discreet.run_answering, S3.outcome_getObject sound about.own]

theorem respond_headObject
    (asks : AsksFor settings occasion request user (.headObject bucket key)) :
    (respond settings occasion request).run s =
      (finish "HEAD" (.endpoint (.headObject bucket key))
        (Discreet.rendered (S3Fault.response · occasion.requestId)
          ((S3.found s user bucket key).map fun content =>
            S3.objectResponse 200 content.object ByteArray.empty)), s) := by
  obtain ⟨body, -, responds⟩ := respond_run asks.authenticated asks.leads
  have answers : (answerUser settings occasion request body user (.headObject bucket key)).run s =
      (answerS3 occasion (S3.headObject user bucket key)).run s := rfl
  rw [responds, Route.method_of_endpoint asks.leads rfl, answers, answerS3,
    Discreet.run_answering, S3.outcome_headObject sound]

end

/-! ## Ranges and headers -/

/-- What is answered to a request for an object with some bytes, given what its headers ask. -/
def AnswersAsked (bytes : ByteArray) (response : Response) : RangeRequest → Prop
  | .part range =>
      (range.first ≤ range.last ∧ range.last < bytes.size ∧ range.length ≤ bytes.size) ∧
        response.status = 206 ∧
        response.body = bytes.extract range.first (range.last + 1) ∧
        response.body.size = range.length ∧
        response.headers.getAll "content-length" = [(decimal range.length).toUTF8] ∧
        response.headers.getAll "content-range" =
          [("bytes " ++ decimal range.first ++ "-" ++ decimal range.last ++ "/" ++
            decimal bytes.size).toUTF8]
  | .unsatisfiable => response.status = 416
  | .whole =>
      response.status = 200 ∧ response.body = bytes ∧
        response.headers.getAll "content-length" = [(decimal bytes.size).toUTF8]

/-- A response is another one without its body. -/
structure HeadOf (whole head : Response) : Prop where
  status : head.status = whole.status
  headers : head.headers = whole.headers
  empty : head.body = ByteArray.empty

theorem headOf_finish {whole head : Response} (status : head.status = whole.status)
    (headers : head.withLength.headers = whole.withLength.headers) (endpoint endpoint' : Endpoint) :
    HeadOf (finish "GET" (.endpoint endpoint) whole)
      (finish "HEAD" (.endpoint endpoint') head) where
  status := by rw [finish_status, finish_status, status]
  headers := by rw [headers_finish_eq, headers_finish_eq, headers]
  empty := rfl

theorem answersAsked_answerAsked {content : Content}
    (size : content.object.size = content.bytes.size) {asked : RangeRequest}
    (within : ∀ range, asked = .part range → range.last < content.bytes.size)
    (resource requestId : String) (endpoint : Endpoint) :
    AnswersAsked content.bytes
      (finish "GET" (.endpoint endpoint)
        (Discreet.rendered (S3Fault.response · requestId)
          (S3.answerAsked resource content asked))) asked := by
  have get : "GET" ≠ "HEAD" := by decide
  cases asked with
  | whole =>
      have length : (S3.objectResponse 200 content.object content.bytes).headers.getAll
          "content-length" = [(decimal content.bytes.size).toUTF8] := by
        show ((describe Headers.empty content.object).insertText "accept-ranges" "bytes").getAll _ =
          _
        rw [Headers.getAll_insertText_of_ne _ _ (by decide), getAll_describe_length, size,
          Int.toNat_natCast]
      refine ⟨finish_status .., body_finish get endpoint _, ?_⟩
      show (finish "GET" _ (S3.objectResponse 200 content.object content.bytes)).headers.getAll _ =
        _
      rw [headers_finish "GET" endpoint (S3.has_objectResponse 200 content.object content.bytes)]
      exact length
  | part range =>
      have below := within range rfl
      have length := S3.getAll_rangeResponse_length content range
      have states : (S3.rangeResponse content range).headers.has "content-length" :=
        Headers.has_of_getAll _ _ (length ▸ List.mem_cons_self)
      have body : (finish "GET" (.endpoint endpoint) (S3.rangeResponse content range)).body =
          content.bytes.extract range.first (range.last + 1) := body_finish get endpoint _
      refine ⟨⟨range.first_le_last, below, ByteRange.length_le below⟩, finish_status .., body, ?_⟩
      show ByteArray.size (finish "GET" _ (S3.rangeResponse content range)).body = _ ∧
        (finish "GET" _ (S3.rangeResponse content range)).headers.getAll _ = _ ∧
        (finish "GET" _ (S3.rangeResponse content range)).headers.getAll _ = _
      rw [body, headers_finish "GET" endpoint states]
      exact ⟨size_extract_range below, length, S3.getAll_rangeResponse_range content range⟩
  | unsatisfiable => exact finish_status ..

/-- **Exactly the bytes asked for are answered, and the headers alone are those of the whole.**  In
every state that a server comes to, an existing object is answered as its headers ask: with a range
of it that lies within the object, whose length and place are stated; with the fault of a range that
holds no byte; or as a whole.  And the headers of any key, of an object or not, are answered with
the status and the headers of its content when no range is asked for, and without body. -/
theorem ranges_answered {settings : Settings} {s : Store} (reached : Reached settings s)
    (user : User) (bucket key : String) :
    (∀ record, Name.checkBucket bucket = .ok () →
      s.shelf.objects.find? (Name.identifier user.userId bucket key) = some record →
      ∀ occasion request, AsksFor settings occasion request user (.getObject bucket key) →
        AboutObject request →
        let done := (respond settings occasion request).run s
        AnswersAsked record.bytes done.1 (rangeAsked request.headers record.bytes.size) ∧
          done.2 = s) ∧
    ∀ occasion occasion' get head,
      occasion.requestId.utf8ByteSize = occasion'.requestId.utf8ByteSize →
      AsksFor settings occasion get user (.getObject bucket key) → AboutObject get →
      get.headers.get? "range" = none →
      AsksFor settings occasion' head user (.headObject bucket key) →
      HeadOf ((respond settings occasion get).run s).1
        ((respond settings occasion' head).run s).1 := by
  have sound := reached.sound
  refine ⟨?_, ?_⟩
  · intro record named known occasion request asks about done
    rw [Store.find?_shelf_objects, Option.map_eq_some_iff] at known
    obtain ⟨row, found, rfl⟩ := known
    have there := sound.contentUnder_of_found found
    have size := sound.size_contentAt found
    rw [show done = _ from respond_getObject sound asks about, S3.found_of_named named, there]
    exact ⟨answersAsked_answerAsked size (fun _ => last_lt_of_rangeAsked) _ occasion.requestId
      (.getObject bucket key), rfl⟩
  · intro occasion occasion' get head sameSize asks about absent asks'
    have unranged : get.headers.text? "range" = none := by
      rw [Headers.text?, absent]
      rfl
    rw [respond_getObject sound asks about, respond_headObject sound asks',
      S3.answerAsked_unranged unranged]
    dsimp only
    cases S3.found s user bucket key with
    | error fault =>
        show HeadOf (finish "GET" _ (fault.response occasion.requestId))
          (finish "HEAD" _ (fault.response occasion'.requestId))
        refine headOf_finish ?_ (headers_withLength_congr ?_ ?_) _ _
        · rw [S3.status_response, S3.status_response]
        · rw [S3.headers_response, S3.headers_response]
        · exact S3.size_response fault sameSize.symm
    | ok content =>
        show HeadOf (finish "GET" _ (S3.objectResponse 200 content.object content.bytes))
          (finish "HEAD" _ (S3.objectResponse 200 content.object ByteArray.empty))
        refine headOf_finish ?_ ?_ _ _
        · rw [S3.status_objectResponse, S3.status_objectResponse]
        · rw [S3.headers_objectResponse, S3.headers_objectResponse]

/-- A range of an object that is there, and the headers of one that is not. -/
theorem range_of_put :
    let target (key : String) : Target := ⟨none, "/s3/put/" ++ key, none⟩
    let part := SignedClient.request "GET" (target "k") [("range", "bytes=0-5".toUTF8)] []
    let get := SignedClient.request "GET" (target "j") [] []
    let head := SignedClient.request "HEAD" (target "j") [] []
    let answer (request : Request) :=
      ((respond KeyClient.settings KeyClient.occasion request).run KeyClient.stored).1
    (∃ record, KeyClient.stored.shelf.objects.find? (Name.identifier "ann" "put" "k") =
      some record ∧ rangeAsked part.headers record.bytes.size = .part ⟨0, 0, Nat.le_refl 0⟩ ∧
      AnswersAsked record.bytes (answer part) (.part ⟨0, 0, Nat.le_refl 0⟩)) ∧
    HeadOf (answer get) (answer head) := by
  intro target part get head answer
  have reached : Reached KeyClient.settings KeyClient.stored :=
    .request .start KeyClient.occasion KeyClient.put
  have asksPart : AsksFor KeyClient.settings KeyClient.occasion part KeyClient.credential.user
      (.getObject "put" "k") :=
    SignedClient.asksFor (by decide +kernel) (by decide) rfl _
  have asksGet : AsksFor KeyClient.settings KeyClient.occasion get KeyClient.credential.user
      (.getObject "put" "j") :=
    SignedClient.asksFor (by decide +kernel) (by decide) rfl _
  have asksHead : AsksFor KeyClient.settings KeyClient.occasion head KeyClient.credential.user
      (.headObject "put" "j") :=
    SignedClient.asksFor (by decide +kernel) (by decide) rfl _
  have unranged : get.headers.get? "range" = none :=
    SignedClient.get?_request "GET" (target "j") [] [] (by decide)
  have held : (KeyClient.stored.shelf.objects.find? (Name.identifier "ann" "put" "k")).map
      (fun record => record.bytes.size) = some 1 := by decide +kernel
  obtain ⟨record, found, size⟩ := Option.map_eq_some_iff.mp held
  have asked : rangeAsked part.headers record.bytes.size = .part ⟨0, 0, Nat.le_refl 0⟩ := by
    have sent : part.headers.get? "range" = some "bytes=0-5".toUTF8 :=
      SignedClient.get?_request "GET" (target "k") [("range", "bytes=0-5".toUTF8)] [] (by decide)
    have shown : valueText? "bytes=0-5".toUTF8 = some "bytes=0-5" := by decide
    have read : RangeRequest.ofText "bytes=0-5" 1 = .part ⟨0, 0, Nat.le_refl 0⟩ := by
      decide
    rw [rangeAsked, Headers.text?, sent, Option.bind_some, shown, size]
    exact read
  have answered : AnswersAsked record.bytes (answer part)
      (rangeAsked part.headers record.bytes.size) :=
    ((ranges_answered reached KeyClient.credential.user "put" "k").1 record rfl found
      KeyClient.occasion part asksPart (.of_no_query rfl)).1
  have alike := (ranges_answered reached KeyClient.credential.user "put" "j").2 KeyClient.occasion
    KeyClient.occasion get head rfl asksGet (.of_no_query rfl) unranged asksHead
  rw [asked] at answered
  exact ⟨⟨record, found, asked, answered⟩, alike⟩

end Server

end Depot
