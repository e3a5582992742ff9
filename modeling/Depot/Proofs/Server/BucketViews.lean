import Depot.Proofs.Server.Objects
import Depot.Proofs.Store.Segments

/-!
# What is seen of a bucket

There is no table of buckets.  Four endpoints say whether a user has one, each
by a question of its own: the list of all buckets groups the rows of the user by
their first segment, the two requests for the headers and for the removal of a
bucket probe for a row under it, and a listing collects its pages.  They agree
in every state that a server comes to (`bucket_views_agree`), because each comes
down to whether the bucket holds a key.
-/

namespace Depot.Server

set_option autoImplicit false

open Depot.Auth
open Depot.Http
open Depot.Text

/-! ## Whether a bucket holds an object -/

def HoldsObject (s : Store) (user : User) (bucket : String) : Prop :=
  ∃ key, HoldsKey s user bucket key

section

variable {s : Store} (sound : s.Sound) (user : User) (bucket : String)

include sound

theorem outcome_holdsObject :
    ∃ held, outcome (S3.holdsObject user bucket) s = (.ok held, s) ∧
      (held = true ↔ HoldsObject s user bucket) := by
  have probed : HoldsObject s user bucket ↔ _ := (sound.rowsUnder_ne_nil_iff).symm
  refine ⟨_, ?_, (?_ : (!(s.rowsUnder (Name.bucketScope user.userId bucket)).isEmpty) = true ↔ _)⟩
  · rw [S3.holdsObject, S3.fromStore, outcome_adapt, Store.outcome_anyUnder, sound.health]
    rfl
  · rw [probed, Bool.not_eq_true', List.isEmpty_eq_false_iff]

/-- Something remains of a whole listing just when the bucket holds an object. -/
theorem remaining_ne_nil_iff (delimiter? : Option String) :
    s.remaining ⟨Name.bucketScope user.userId bucket, "", delimiter?, none⟩ ≠ [] ↔
      HoldsObject s user bucket := by
  constructor
  · intro remains
    obtain ⟨entry, member⟩ := List.exists_mem_of_ne_nil _ remains
    obtain ⟨⟨key, row, found, -⟩, -⟩ := sound.listable.mem_remaining_iff.mp member
    rw [String.empty_append] at found
    exact ⟨key, Option.isSome_of_eq_some found⟩
  · rintro ⟨key, held⟩
    obtain ⟨row, found⟩ := Option.isSome_iff_exists.mp held
    refine List.ne_nil_of_mem (sound.listable.mem_remaining_iff.mpr ⟨⟨key, row, ?_, rfl⟩, nofun⟩)
    rw [String.empty_append]
    exact found

end

/-! ## The list of all buckets -/

/-- The names in a list of buckets, when a response is one. -/
def bucketNamesIn? (response : Response) : Option (List String) :=
  (documentIn? response).bind Xml.bucketNames?

/-- The buckets of a user, in ascending order of their names. -/
def bucketsOf (s : Store) (user : User) : List String :=
  ((Store.segmentsOf (s.rowsUnder (Name.ownerScope user.userId))
    (Name.ownerScope user.userId)).keys).filter Name.isBucketName

theorem bucketsOf_ascending (s : Store) (user : User) :
    (bucketsOf s user).Pairwise fun name next => bytes name < bytes next := by
  refine List.Pairwise.filter _ ?_
  rw [Table.keys, List.pairwise_map]
  exact (Store.segmentsOf _ _).sorted.imp bytes_lt_iff.mpr

theorem mem_bucketsOf_iff {s : Store} (sound : s.Sound) {user : User} {bucket : String} :
    bucket ∈ bucketsOf s user ↔
      Name.checkBucket bucket = .ok () ∧ HoldsObject s user bucket := by
  rw [bucketsOf, List.mem_filter, Name.isBucketName_iff, and_comm]
  refine and_congr_right fun named => ?_
  exact sound.mem_segments_iff (Name.bucket_ne_empty named) (Name.slashless_bucket named)

section

variable {settings : Settings} {s : Store} (sound : s.Sound) {occasion : Occasion}
  {request : Request} {user : User} {bucket : String}

include sound

/-- The list of all buckets is read as the buckets of the user. -/
theorem answer_listBuckets (asks : AsksFor settings occasion request user .listBuckets)
    (method : request.method = "GET") :
    bucketNamesIn? ((respond settings occasion request).run s).1 = some (bucketsOf s user) := by
  obtain ⟨body, -, responds⟩ := respond_run asks.authenticated asks.leads
  let segments := (Store.segmentsOf (s.rowsUnder (Name.ownerScope user.userId))
    (Name.ownerScope user.userId)).entries
  have lists : outcome (S3.listBuckets user) s =
      (.ok (.xml 200 (Xml.bucketsDocument user.userId
        (segments.filter fun e => Name.isBucketName e.1))), s) := by
    rw [S3.listBuckets, outcome_bind, S3.fromStore, outcome_adapt, Store.outcome_topLevel,
      sound.health]
    rfl
  have answers : (answerUser settings occasion request body user .listBuckets).run s =
      (.xml 200 (Xml.bucketsDocument user.userId
        (segments.filter fun e => Name.isBucketName e.1)), s) := by
    unfold answerUser
    dsimp only
    rw [answerS3, Discreet.run_answering, lists]
    rfl
  rw [responds]
  dsimp only
  rw [answers, method, bucketNamesIn?, documentIn?_finish (by decide), documentIn?_xml,
    Option.bind_some, Xml.bucketNames?_document, bucketsOf, Table.keys, List.filter_map]
  rfl

/-! ## Probes of a bucket -/

/-- Who probes a bucket is given one of two answers, by whether it holds an object. -/
theorem status_of_probe (named : Name.checkBucket bucket = .ok ()) {endpoint : Endpoint}
    (asks : AsksFor settings occasion request user endpoint) {there absent : S3.Action Response}
    (probes : ∀ body, answerUser settings occasion request body user endpoint =
      answerS3 occasion (do
        S3.requireBucket bucket
        if ← S3.holdsObject user bucket then there else absent))
    {found missing : Nat} (apart : missing ≠ found)
    (whenThere : ((answerS3 occasion there).run s).1.status = found)
    (whenAbsent : ((answerS3 occasion absent).run s).1.status = missing) :
    let status := ((respond settings occasion request).run s).1.status
    (status = found ∨ status = missing) ∧ (status = found ↔ HoldsObject s user bucket) := by
  obtain ⟨body, -, responds⟩ := respond_run asks.authenticated asks.leads
  obtain ⟨held, looks, tells⟩ := outcome_holdsObject sound user bucket
  have goesOn : outcome (do
      S3.requireBucket bucket
      if ← S3.holdsObject user bucket then there else absent : S3.Action Response) s =
      outcome (if held then there else absent) s := by
    rw [outcome_bind, outcome_liftExcept, S3.requireBucket, named]
    dsimp only
    rw [outcome_bind, looks]
  have answers : ((answerUser settings occasion request body user endpoint).run s).1.status =
      if held then found else missing := by
    rw [probes, answerS3, Discreet.run_answering, goesOn]
    rw [answerS3, Discreet.run_answering] at whenThere whenAbsent
    cases held with
    | true => exact whenThere
    | false => exact whenAbsent
  intro status
  rw [show status = _ from congrArg (·.1.status) (responds s)]
  dsimp only
  rw [finish_status, answers, ← tells]
  cases held with
  | true => exact ⟨.inl rfl, iff_of_true rfl rfl⟩
  | false => exact ⟨.inr rfl, iff_of_false apart Bool.false_ne_true⟩

theorem status_headBucket (named : Name.checkBucket bucket = .ok ())
    (asks : AsksFor settings occasion request user (.headBucket bucket)) :
    let status := ((respond settings occasion request).run s).1.status
    (status = 200 ∨ status = 404) ∧ (status = 200 ↔ HoldsObject s user bucket) :=
  status_of_probe sound named asks (fun _ => rfl) (by decide) rfl rfl

theorem status_deleteBucket (named : Name.checkBucket bucket = .ok ())
    (asks : AsksFor settings occasion request user (.deleteBucket bucket)) :
    let status := ((respond settings occasion request).run s).1.status
    (status = 409 ∨ status = 204) ∧ (status = 409 ↔ HoldsObject s user bucket) :=
  status_of_probe sound named asks (fun _ => rfl) (by decide) rfl rfl

end

/-! ## Listings of a whole bucket -/

/-- A request asks for the first page of a bucket, whatever its keys begin with. -/
structure Unfiltered (request : Request) : Prop where
  once : repeatedName? S3.listingParameters (parametersOf request) = none
  location : valueOf? (parametersOf request) "location" = none
  listType : ∀ text, valueOf? (parametersOf request) "list-type" = some text → text = "2"
  stem : ∀ text, valueOf? (parametersOf request) "prefix" = some text → text = ""
  /-- When a number of keys is asked for, it is not zero. -/
  maxKeys : ∀ text, valueOf? (parametersOf request) "max-keys" = some text →
    ∃ n, natural64? text = some n ∧ n ≠ 0
  token : valueOf? (parametersOf request) "continuation-token" = none
  startAfter : valueOf? (parametersOf request) "start-after" = none
  marker : valueOf? (parametersOf request) "marker" = none

theorem Unfiltered.asksForPage {request : Request} (unfiltered : Unfiltered request) :
    ∃ room, room ≠ 0 ∧ AsksForPage (parametersOf request) room none := by
  have resumes (resource : String) : S3.readResume resource (parametersOf request) = .ok none := by
    rw [S3.readResume, unfiltered.token, unfiltered.startAfter, unfiltered.marker]
    rfl
  cases asked : valueOf? (parametersOf request) "max-keys" with
  | none =>
      refine ⟨S3.pageKeys, by decide, unfiltered.location, unfiltered.listType, ?_, resumes⟩
      intro resource
      rw [asked, S3.readMaxKeys]
  | some text =>
      obtain ⟨n, read, positive⟩ := unfiltered.maxKeys text asked
      have some : min n S3.pageKeys ≠ 0 := by
        unfold S3.pageKeys
        omega
      refine ⟨min n S3.pageKeys, some, unfiltered.location, unfiltered.listType, ?_, resumes⟩
      intro resource
      rw [asked, S3.readMaxKeys, read]

theorem Unfiltered.stem_eq {request : Request} (unfiltered : Unfiltered request) :
    (valueOf? (parametersOf request) "prefix").getD "" = "" := by
  cases asked : valueOf? (parametersOf request) "prefix" with
  | none => rfl
  | some text => exact unfiltered.stem text asked

theorem length_pageOf_ne_zero_iff {entries : List Store.PageEntry} {room : Nat}
    (some : room ≠ 0) : (Store.pageOf entries room).entries.length ≠ 0 ↔ entries ≠ [] := by
  rcases Store.pageOf_cases entries some with ⟨-, page⟩ | ⟨before, last, after, whole, -, -, page⟩
  · rw [page]
    exact List.length_eq_zero_iff.not
  · rw [page, whole]
    simp

section

variable {settings : Settings} {s : Store} (sound : s.Sound) {occasion : Occasion}
  {request : Request} {user : User} {bucket : String}

include sound

/-- The number of keys in a listing of a whole bucket is not zero just when it holds an object. -/
theorem keyCount_unfiltered (named : Name.checkBucket bucket = .ok ())
    (asks : AsksFor settings occasion request user (.listObjects bucket))
    (unfiltered : Unfiltered request) :
    ∃ page count, listingIn? ((respond settings occasion request).run s).1 = some page ∧
      page.keyCount = decimal count ∧ (count ≠ 0 ↔ HoldsObject s user bucket) := by
  obtain ⟨room, some, asked⟩ := unfiltered.asksForPage
  obtain ⟨shows, -⟩ := answer_page sound named asks.authenticated asks.leads
    (Route.method_of_endpoint asks.leads rfl) unfiltered.once some asked
  rw [unfiltered.stem_eq] at shows
  refine ⟨_, _, shows, rfl, ?_⟩
  -- A page with room is empty only when nothing remains.
  rw [length_pageOf_ne_zero_iff some, remaining_ne_nil_iff sound user bucket]

end

/-! ## All views -/

/-- What the four endpoints show of the buckets of a user. -/
structure BucketViews (settings : Settings) (s : Store) (user : User) : Prop where
  /-- The list of all buckets names each once, in ascending order of the bytes, and no other. -/
  names : ∀ occasion request, AsksFor settings occasion request user .listBuckets →
    request.method = "GET" →
    ∃ names, bucketNamesIn? ((respond settings occasion request).run s).1 = some names ∧
      (names.Pairwise fun name next => bytes name < bytes next) ∧
      ∀ bucket, bucket ∈ names ↔ Name.checkBucket bucket = .ok () ∧ HoldsObject s user bucket
  /-- The headers of a bucket are there or not. -/
  head : ∀ bucket occasion request, Name.checkBucket bucket = .ok () →
    AsksFor settings occasion request user (.headBucket bucket) →
    let status := ((respond settings occasion request).run s).1.status
    (status = 200 ∨ status = 404) ∧ (status = 200 ↔ HoldsObject s user bucket)
  /-- A bucket is not empty, or may be removed. -/
  delete : ∀ bucket occasion request, Name.checkBucket bucket = .ok () →
    AsksFor settings occasion request user (.deleteBucket bucket) →
    let status := ((respond settings occasion request).run s).1.status
    (status = 409 ∨ status = 204) ∧ (status = 409 ↔ HoldsObject s user bucket)
  /-- A listing of a whole bucket counts a key or none. -/
  listing : ∀ bucket occasion request, Name.checkBucket bucket = .ok () →
    AsksFor settings occasion request user (.listObjects bucket) → Unfiltered request →
    ∃ page count, listingIn? ((respond settings occasion request).run s).1 = some page ∧
      page.keyCount = decimal count ∧ (count ≠ 0 ↔ HoldsObject s user bucket)

/-- **The views of a bucket agree.**  In every state that a server comes to, for every user and
every name that a bucket may have: the list of all buckets names it, the request for its headers is
answered with 200, the one for its removal with 409, and a listing of the whole bucket counts a key,
each just when the user has an object in the bucket of exactly this name.  The list of all buckets
names no other, each once, in ascending order of the bytes.  The requests are made at the path of
the protocol, with the name of the bucket after it. -/
theorem bucket_views_agree {settings : Settings} {s : Store} (reached : Reached settings s)
    (user : User) :
    BucketViews settings s user ∧
      Route.of "GET" "/" = .endpoint .listBuckets ∧
      ∀ bucket, Name.checkBucket bucket = .ok () →
        Route.of "GET" ("/s3/" ++ bucket) = .endpoint (.listObjects bucket) ∧
        Route.of "HEAD" ("/s3/" ++ bucket) = .endpoint (.headBucket bucket) ∧
        Route.of "DELETE" ("/s3/" ++ bucket) = .endpoint (.deleteBucket bucket) := by
  have sound := reached.sound
  refine ⟨⟨fun _ _ asks method => ?_, fun _ _ _ named asks => ?_, fun _ _ _ named asks => ?_,
    fun _ _ _ named asks unfiltered => ?_⟩, rfl, fun _ named => Route.of_s3_bucket named⟩
  · exact ⟨bucketsOf s user, answer_listBuckets sound asks method, bucketsOf_ascending s user,
      fun _ => mem_bucketsOf_iff sound⟩
  · exact status_headBucket sound named asks
  · exact status_deleteBucket sound named asks
  · exact keyCount_unfiltered sound named asks unfiltered

/-- The bucket of the one object that is stored is seen in all four ways. -/
theorem bucket_views_of_put :
    let request (method path : String) (query? : Option String) :=
      SignedClient.request method ⟨none, path, query?⟩ [] []
    (∃ names, bucketNamesIn? ((respond KeyClient.settings KeyClient.occasion
          (request "GET" "/" none)).run KeyClient.stored).1 = some names ∧ "put" ∈ names) ∧
      ((respond KeyClient.settings KeyClient.occasion
          (request "HEAD" "/s3/put" none)).run KeyClient.stored).1.status = 200 ∧
      ((respond KeyClient.settings KeyClient.occasion
          (request "DELETE" "/s3/put" none)).run KeyClient.stored).1.status = 409 ∧
      ∃ page count, listingIn? ((respond KeyClient.settings KeyClient.occasion
          (request "GET" "/s3/put" (some "list-type=2"))).run KeyClient.stored).1 = some page ∧
        page.keyCount = decimal count ∧ count ≠ 0 := by
  intro request
  have reached : Reached KeyClient.settings KeyClient.stored :=
    .request .start KeyClient.occasion KeyClient.put
  have named : Name.checkBucket "put" = .ok () := rfl
  have held : HoldsObject KeyClient.stored KeyClient.credential.user "put" := by
    refine ⟨"k", ?_⟩
    unfold HoldsKey
    decide +kernel
  obtain ⟨views, all, paths⟩ := bucket_views_agree reached KeyClient.credential.user
  obtain ⟨listed, headed, deleted⟩ := paths "put" named
  have asks {method path : String} {query? : Option String} {endpoint : Endpoint}
      (leads : Route.of method path = .endpoint endpoint)
      (closed : Protocol.ofPath path ≠ .probe) :
      AsksFor KeyClient.settings KeyClient.occasion (request method path query?)
        KeyClient.credential.user endpoint :=
    @SignedClient.asksFor method ⟨none, path, query?⟩ endpoint leads closed [] rfl []
  have unfiltered : Unfiltered (request "GET" "/s3/put" (some "list-type=2")) := by
    have params : parametersOf (request "GET" "/s3/put" (some "list-type=2")) =
        [⟨"list-type", "2"⟩] := by
      show parameters "list-type=2" = _
      decide
    constructor <;> rw [params]
    · decide
    · rfl
    · rintro _ ⟨⟩
      rfl
    · rintro _ ⟨⟩
    · rintro _ ⟨⟩
    · rfl
    · rfl
    · rfl
  obtain ⟨names, read, -, known⟩ := views.names KeyClient.occasion (request "GET" "/" none)
    (asks all (by decide)) rfl
  have head := views.head "put" KeyClient.occasion (request "HEAD" "/s3/put" none) named
    (asks headed (by decide))
  have delete := views.delete "put" KeyClient.occasion (request "DELETE" "/s3/put" none) named
    (asks deleted (by decide))
  obtain ⟨page, count, shown, counts, tells⟩ := views.listing "put" KeyClient.occasion
    (request "GET" "/s3/put" (some "list-type=2")) named (asks listed (by decide))
    unfiltered
  exact ⟨⟨names, read, (known "put").mpr ⟨named, held⟩⟩, head.2.mpr held, delete.2.mpr held,
    page, count, shown, counts, tells.mpr held⟩

end Depot.Server
