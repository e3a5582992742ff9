import Depot.Proofs.Server.Listings
import Mathlib.Algebra.Group.Nat.Defs

/-!
# Buckets page by page

A client that lists a bucket asks for a page, and as long as the answer has a
token, for the page with that token.  It comes to an end, and its pages together
list the bucket completely (`browsing_lists`): every key without the delimiter
and every common stem of the others once, in the order of their bytes.

What the page with a token shows is what the pages before it left over
(`Store.Listable.remaining_after`), so the induction is on what remains.

Two buckets cannot be listed under the path of their name, because a probe has
it, and a number of keys past 64 bits is refused (`not_every_listing`).
-/

namespace Depot.Server

set_option autoImplicit false

open Depot.Auth
open Depot.Http
open Depot.Text
open Depot.Time
open Depot.Xml (ReadListing ReadObject)

/-! ## Browsing -/

/-- What a client asks, and when, given the token of the page before. -/
abbrev Client := Option String → Occasion × Request

/-- A client asks for a page, and for the next one as long as the answer has a token; nothing else
happens meanwhile.  It is given the pages, and the store is left. -/
inductive Browses (settings : Settings) (client : Client) :
    Store → Option String → List ReadListing → Store → Prop where
  | last {s t : Store} {token? : Option String} {response : Response} {page : ReadListing}
      (answers : (respond settings (client token?).1 (client token?).2).run s = (response, t))
      (shows : listingIn? response = some page) (ends : page.nextToken? = none) :
      Browses settings client s token? [page] t
  | more {s t u : Store} {token? : Option String} {token : String} {response : Response}
      {page : ReadListing} {pages : List ReadListing}
      (answers : (respond settings (client token?).1 (client token?).2).run s = (response, t))
      (shows : listingIn? response = some page) (goesOn : page.nextToken? = some token)
      (rest : Browses settings client t (some token) pages u) :
      Browses settings client s token? (page :: pages) u

/-- What holds of a page, given the pages after it. -/
structure PageFits (q : ListingQuery) (page : ReadListing) (later : List ReadListing) : Prop where
  counts : page.keyCount = decimal (page.contents.length + page.commonStems.length)
  within : page.contents.length + page.commonStems.length ≤ min q.maxKeys 1000
  truncated : page.isTruncated = if page.nextToken?.isSome then "true" else "false"
  /-- A token is there when more is listed. -/
  remains : page.nextToken?.isSome ↔
    ∃ next, next ∈ later ∧ (next.contents ≠ [] ∨ next.commonStems ≠ [])

/-- A bucket of a user holds a key. -/
def HoldsKey (s : Store) (user : User) (bucket key : String) : Prop :=
  (s.objects.find? (Name.identifier user.userId bucket key)).isSome

/-- What holds of all pages together. -/
structure ListsBucket (settings : Settings) (s : Store) (user : User) (q : ListingQuery)
    (pages : List ReadListing) : Prop where
  fits : ∀ before page later, pages = before ++ page :: later → PageFits q page later
  /-- Keys are listed once, in the order of their bytes. -/
  keys_ascend : ((pages.flatMap ReadListing.contents).map ReadObject.key).Pairwise
    fun key next => bytes key < bytes next
  /-- They are those that begin as asked for and have no delimiter after that. -/
  keys : ∀ key, key ∈ (pages.flatMap ReadListing.contents).map ReadObject.key ↔
    HoldsKey s user q.bucket key ∧ ∃ rest, key = q.stem ++ rest ∧
      ∀ delimiter, q.mark? = some delimiter → ¬ delimiter.toList <:+: rest.toList
  /-- They are listed with the size and the digest that their headers state. -/
  heads : ∀ object, object ∈ pages.flatMap ReadListing.contents → ∀ occasion request,
    Route.of request.method request.target.path = .endpoint (.headObject q.bucket object.key) →
    authenticatedAs settings occasion request = some user →
    let response := ((respond settings occasion request).run s).1
    response.status = 200 ∧ response.headers.text? "content-length" = some object.size ∧
      response.headers.text? "etag" = some object.etag
  /-- Common stems are listed once, in the order of their bytes. -/
  stems_ascend : (pages.flatMap ReadListing.commonStems).Pairwise
    fun stem next => bytes stem < bytes next
  /-- They are those of the other keys. -/
  stems : ∀ common, common ∈ pages.flatMap ReadListing.commonStems ↔
    ∃ key, HoldsKey s user q.bucket key ∧ Store.HasCommonStem q.stem q.mark? key common

/-- Of two keys that are asked for one at a time, one is on another page. -/
theorem ListsBucket.several {settings : Settings} {s : Store} {user : User} {q : ListingQuery}
    {pages : List ReadListing} (lists : ListsBucket settings s user q pages)
    (single : q.maxKeys = 1) {key other : String}
    (first : key ∈ (pages.flatMap ReadListing.contents).map ReadObject.key)
    (second : other ∈ (pages.flatMap ReadListing.contents).map ReadObject.key)
    (differs : key ≠ other) : 1 < pages.length := by
  match pages with
  | [] => cases first
  | [page] =>
      have within := (lists.fits [] page [] rfl).within
      rw [List.flatMap_singleton] at first second
      match contents : page.contents with
      | [] =>
          rw [contents] at first
          cases first
      | [object] =>
          rw [contents, List.map_singleton, List.mem_singleton] at first second
          exact absurd (first.trans second.symm) differs
      | _ :: _ :: _ =>
          rw [contents, List.length_cons, List.length_cons] at within
          omega
  | _ :: _ :: _ => simp

/-! ## What remains is listed -/

section

variable {settings : Settings} {s : Store} {user : User} {q : ListingQuery} {client : Client}

/-- What a client lists from a resume point on is what remains there. -/
structure ListsRemaining (s : Store) (user : User) (q : ListingQuery) (after? : Option String)
    (pages : List ReadListing) : Prop where
  fits : ∀ before page later, pages = before ++ page :: later → PageFits q page later
  contents : pages.flatMap ReadListing.contents =
    ((s.remaining (q.pageRequest user after?)).filterMap listed?).map fun e => .ofObject e.1 e.2
  commonStems : pages.flatMap ReadListing.commonStems =
    (s.remaining (q.pageRequest user after?)).filterMap commonStem?

/-- When something remains, a page lists it. -/
theorem ListsRemaining.shows {after? : Option String} {pages : List ReadListing}
    (lists : ListsRemaining s user q after? pages)
    (remains : s.remaining (q.pageRequest user after?) ≠ []) :
    ∃ page, page ∈ pages ∧ (page.contents ≠ [] ∨ page.commonStems ≠ []) := by
  obtain ⟨entry, rest, whole⟩ := List.exists_cons_of_ne_nil remains
  have contents := lists.contents
  have commonStems := lists.commonStems
  rw [whole] at contents commonStems
  cases entry with
  | object key object =>
      have member : ReadObject.ofObject key object ∈ pages.flatMap ReadListing.contents := by
        rw [contents]
        exact List.mem_cons_self
      obtain ⟨page, known, inside⟩ := List.mem_flatMap.mp member
      exact ⟨page, known, .inl (List.ne_nil_of_mem inside)⟩
  | commonStem stem =>
      have member : stem ∈ pages.flatMap ReadListing.commonStems := by
        rw [commonStems]
        exact List.mem_cons_self
      obtain ⟨page, known, inside⟩ := List.mem_flatMap.mp member
      exact ⟨page, known, .inr (List.ne_nil_of_mem inside)⟩

theorem pageFits_readPage {page : Store.Page} {later : List ReadListing}
    (within : page.entries.length ≤ q.room)
    (remains : page.next?.isSome ↔
      ∃ next, next ∈ later ∧ (next.contents ≠ [] ∨ next.commonStems ≠ [])) :
    PageFits q (readPage page) later := by
  have count : (readPage page).contents.length + (readPage page).commonStems.length =
      page.entries.length := by
    rw [← length_entries page.entries, readPage, List.length_map]
  have token : (readPage page).nextToken?.isSome = page.next?.isSome := Option.isSome_map
  refine ⟨?_, count ▸ within, ?_, token ▸ remains⟩
  · rw [count]
    rfl
  · rw [token]
    rfl

/-- What fits in front of pages that fit. -/
theorem fits_cons {page : ReadListing} {pages : List ReadListing} (first : PageFits q page pages)
    (rest : ∀ before page' later, pages = before ++ page' :: later → PageFits q page' later) :
    ∀ before page' later, page :: pages = before ++ page' :: later → PageFits q page' later := by
  intro before page' later whole
  cases before with
  | nil =>
      cases whole
      exact first
  | cons _ before =>
      cases whole
      exact rest before page' later rfl

variable (sound : s.Sound) (named : Name.checkBucket q.bucket = .ok ())
  (closed : q.bucket ∉ openPaths) (positive : 1 ≤ q.maxKeys) (small : q.maxKeys ≤ max64)
  (asks : ∀ token?, q.Asks token? (client token?).2 ∧
    authenticatedAs settings (client token?).1 (client token?).2 = some user)

include sound named closed positive small asks

theorem answered (after? : Option String) :
    ∃ response,
      (respond settings (client (after?.map Base64.encodeText)).1
        (client (after?.map Base64.encodeText)).2).run s = (response, s) ∧
      listingIn? response =
        some (readPage (Store.pageOf (s.remaining (q.pageRequest user after?)) q.room)) := by
  obtain ⟨asked, authenticated⟩ := asks (after?.map Base64.encodeText)
  obtain ⟨shows, keeps⟩ := answer_listing sound named closed positive small asked authenticated
  exact ⟨_, Prod.ext rfl keeps, shows⟩

/-- A client comes to an end, from every resume point on. -/
theorem browses (after? : Option String) :
    ∃ pages, Browses settings client s (after?.map Base64.encodeText) pages s := by
  have room : q.room ≠ 0 := q.room_ne_zero positive
  -- The page with a token shows less, because its page before showed an entry.
  induction length : (s.remaining (q.pageRequest user after?)).length using
    Nat.strongRecOn generalizing after? with
  | ind n ih =>
      obtain ⟨response, answers, shows⟩ :=
        answered sound named closed positive small asks after?
      rcases Store.pageOf_cases (s.remaining (q.pageRequest user after?)) room with
        ⟨-, page⟩ | ⟨before, last, after, whole, -, -, page⟩
      · exact ⟨_, .last answers shows (by rw [page]; rfl)⟩
      · have remaining : s.remaining (q.pageRequest user (some last.key)) = after :=
          sound.listable.remaining_after whole
        obtain ⟨pages, rest⟩ := ih after.length
          (by rw [← length, whole, List.length_append, List.length_cons]; omega)
          (some last.key) (by rw [remaining])
        exact ⟨_, .more answers shows (by rw [page]; rfl) rest⟩

/-- What a client is given from a resume point on lists what remains there, and leaves the store as
it was. -/
theorem Browses.lists {t u : Store} {token? : Option String} {pages : List ReadListing}
    (browsing : Browses settings client t token? pages u) (same : s = t) (after? : Option String)
    (known : token? = after?.map Base64.encodeText) :
    u = s ∧ ListsRemaining s user q after? pages := by
  have room : q.room ≠ 0 := q.room_ne_zero positive
  induction browsing generalizing after? with
  | last answers shows ends =>
      subst same known
      obtain ⟨response, answers', shows'⟩ :=
        answered sound named closed positive small asks after?
      cases answers.symm.trans answers'
      cases shows.symm.trans shows'
      rcases Store.pageOf_cases (s.remaining (q.pageRequest user after?)) room with
        ⟨fits, page⟩ | ⟨before, last, after, -, -, -, page⟩
      · refine ⟨rfl, ?_, ?_, ?_⟩
        · refine fits_cons (pageFits_readPage ?_ ?_) (by simp)
          · rwa [page]
          · simp [page]
        · simp [page, readPage]
        · simp [page, readPage]
      · rw [page] at ends
        cases ends
  | more answers shows goesOn rest ih =>
      subst same known
      obtain ⟨response, answers', shows'⟩ :=
        answered sound named closed positive small asks after?
      cases answers.symm.trans answers'
      cases shows.symm.trans shows'
      rcases Store.pageOf_cases (s.remaining (q.pageRequest user after?)) room with
        ⟨-, page⟩ | ⟨before, last, after, whole, remains, fits, page⟩
      · rw [page] at goesOn
        cases goesOn
      · have remaining : s.remaining (q.pageRequest user (some last.key)) = after :=
          sound.listable.remaining_after whole
        have cut : s.remaining (q.pageRequest user after?) = before ++ [last] ++ after := by
          rw [whole, List.append_assoc, List.singleton_append]
        rw [page] at goesOn ⊢
        obtain ⟨same, lists⟩ := ih rfl (some last.key) goesOn.symm
        refine ⟨same, fits_cons (pageFits_readPage ?_ ?_) lists.fits, ?_, ?_⟩
        · rw [List.length_append, List.length_singleton]
          exact fits
        · exact iff_of_true rfl (lists.shows (by rwa [remaining]))
        · rw [List.flatMap_cons, lists.contents, remaining, cut, List.filterMap_append,
            List.map_append]
          rfl
        · rw [List.flatMap_cons, lists.commonStems, remaining, cut, List.filterMap_append]
          rfl

end

/-! ## The whole listing -/

section

variable {s : Store} {user : User} {q : ListingQuery}

/-- The entries of a listing are those of the keys that begin as asked for. -/
theorem mem_entries_iff (sound : s.Sound) {entry : Store.PageEntry} :
    entry ∈ s.remaining (q.pageRequest user none) ↔
      ∃ rest row,
        s.objects.find? (Name.identifier user.userId q.bucket (q.stem ++ rest)) = some row ∧
        ((∃ common, Store.HasCommonStem q.stem q.mark? (q.stem ++ rest) common ∧
            entry = .commonStem common) ∨
          (∀ common, ¬ Store.HasCommonStem q.stem q.mark? (q.stem ++ rest) common) ∧
            entry = .object (q.stem ++ rest)
              (Store.objectAt (Name.identifier user.userId q.bucket (q.stem ++ rest)) row)) := by
  rw [sound.listable.mem_remaining_iff, and_iff_left (by rintro _ ⟨⟩)]
  refine exists_congr fun rest => exists_congr fun row => and_congr_right fun found => ?_
  have key : (q.pageRequest user none).keyOf
      (Store.objectAt (Name.identifier user.userId q.bucket (q.stem ++ rest)) row).identifier =
      q.stem ++ rest := Store.PageRequest.keyOf_append (q.pageRequest user none) _
  rcases Store.PageRequest.entryOf_cases (q.pageRequest user none) key with
    ⟨common, has, shows⟩ | ⟨apart, shows⟩
  · constructor
    · rintro rfl
      exact .inl ⟨common, has, shows⟩
    · rintro (⟨common', has', rfl⟩ | ⟨apart, -⟩)
      · exact (has.unique has' ▸ shows).symm
      · exact absurd has (apart common)
  · constructor
    · rintro rfl
      exact .inr ⟨apart, shows⟩
    · rintro (⟨common, has, -⟩ | ⟨-, rfl⟩)
      · exact absurd has (apart common)
      · exact shows.symm

/-- The listed objects are those of the keys that begin as asked for and have no delimiter after
that. -/
theorem mem_listed_iff (sound : s.Sound) {key : String} {object : Object} :
    (key, object) ∈ (s.remaining (q.pageRequest user none)).filterMap listed? ↔
      ∃ rest row, key = q.stem ++ rest ∧
        s.objects.find? (Name.identifier user.userId q.bucket key) = some row ∧
        (∀ delimiter, q.mark? = some delimiter → ¬ delimiter.toList <:+: rest.toList) ∧
        object = Store.objectAt (Name.identifier user.userId q.bucket key) row := by
  rw [List.mem_filterMap]
  constructor
  · rintro ⟨entry, member, shown⟩
    obtain ⟨rest, row, found, ⟨common, -, rfl⟩ | ⟨apart, rfl⟩⟩ := (mem_entries_iff sound).mp member
    · cases shown
    · cases shown
      exact ⟨rest, row, rfl, found, Store.not_hasCommonStem_iff.mp apart, rfl⟩
  · rintro ⟨rest, row, rfl, found, apart, rfl⟩
    have entry := (mem_entries_iff sound).mpr
      ⟨rest, row, found, .inr ⟨Store.not_hasCommonStem_iff.mpr apart, rfl⟩⟩
    exact ⟨_, entry, rfl⟩

/-- The listed common stems are those of the other keys. -/
theorem mem_commonStems_iff (sound : s.Sound) {common : String} :
    common ∈ (s.remaining (q.pageRequest user none)).filterMap commonStem? ↔
      ∃ key, HoldsKey s user q.bucket key ∧ Store.HasCommonStem q.stem q.mark? key common := by
  rw [List.mem_filterMap]
  constructor
  · rintro ⟨entry, member, shown⟩
    obtain ⟨rest, row, found, ⟨common', has, rfl⟩ | ⟨-, rfl⟩⟩ := (mem_entries_iff sound).mp member
    · cases shown
      exact ⟨_, Option.isSome_of_eq_some found, has⟩
    · cases shown
  · rintro ⟨key, held, has⟩
    obtain ⟨row, found⟩ := Option.isSome_iff_exists.mp held
    have begins : ∃ rest, key = q.stem ++ rest := by
      obtain ⟨_, rest, _, _, _, whole, _⟩ := has
      exact ⟨rest, whole⟩
    obtain ⟨rest, rfl⟩ := begins
    exact ⟨_, (mem_entries_iff sound).mpr ⟨rest, row, found, .inl ⟨common, has, rfl⟩⟩, rfl⟩

/-- What is taken of the entries keeps their order. -/
theorem ascending_filterMap {α : Type} {f : Store.PageEntry → Option α} {g : α → String}
    (keyed : ∀ entry a, f entry = some a → g a = entry.key) (request : Store.PageRequest) :
    (((s.remaining request).filterMap f).map g).Pairwise fun a b => bytes a < bytes b := by
  rw [List.pairwise_map, List.pairwise_filterMap]
  refine (s.remaining_ascending request).imp fun below a first b second => ?_
  rw [bytes_lt_iff, keyed _ _ first, keyed _ _ second]
  exact below

end

/-! ## A client with an access key -/

/-- Who names themselves and their access key, in the native protocol, is let in. -/
theorem authenticatedAs_named {settings : Settings} {occasion : Occasion} {request : Request}
    {user : User} (native : Protocol.ofPath request.target.path = .native)
    (unsigned : request.headers.has "authorization" = false)
    (known : namedUser settings.verifier request.headers = .ok user) :
    authenticatedAs settings occasion request = some user := by
  unfold authenticatedAs admission
  rw [native, if_neg (by decide), unsigned, if_neg (by decide), if_pos rfl, known]
  rfl

namespace KeyClient

def credential : Credential := ⟨"ann", "key", "secret"⟩

/-- A server that knows the user. -/
def settings : Settings where
  verifier := ⟨.ofList [credential], "us-east-1", 900⟩
  maxBodyBytes := 1024
  maxBufferedBytes := 1024

def occasion : Occasion := ⟨⟨0, 0⟩, "r"⟩

/-- The header lines of the user, for a bucket whose name is that of a native verb. -/
def headers : Headers :=
  ⟨[("user", "ann".toUTF8), ("x-access-key", "key".toUTF8), ("bucket", "put".toUTF8)]⟩

def put : Request := ⟨"POST", ⟨none, "/put/k", none⟩, headers, Body.ofBytes "x".toUTF8⟩

def stored : Store := ((respond settings occasion put).run Store.empty).2

def putOther : Request := ⟨"POST", ⟨none, "/put/j", none⟩, headers, Body.ofBytes "y".toUTF8⟩

def storedBoth : Store := ((respond settings occasion putOther).run stored).2

/-- The user lists a bucket. -/
def client (q : ListingQuery) : Client := fun token? =>
  (occasion, ⟨"GET", ⟨none, "/" ++ q.bucket, some (queryOf (q.parameters token?))⟩, headers,
    Body.ofBytes ByteArray.empty⟩)

/-- What is asked of a bucket, given the number of keys. -/
def query (bucket : String) (maxKeys : Nat) : ListingQuery := ⟨bucket, none, none, maxKeys⟩

theorem asks (maxKeys : Nat) (token? : Option String) :
    (query "put" maxKeys).Asks token? (client (query "put" maxKeys) token?).2 ∧
      authenticatedAs settings (client (query "put" maxKeys) token?).1
        (client (query "put" maxKeys) token?).2 = some credential.user := by
  refine ⟨⟨rfl, rfl, _, .refl _, rfl⟩, authenticatedAs_named ?_ ?_ ?_⟩
  · show Protocol.ofPath "/put" = .native
    decide
  · show headers.has "authorization" = false
    decide
  · show namedUser settings.verifier headers = .ok credential.user
    rfl

end KeyClient

/-- **A client lists a bucket completely.**  Let a client ask for a bucket page by page, always
authenticated as its user, in a state that a server comes to; let the bucket not have the name of a
probe, and the client ask for at least one key at a time and fewer than 2^64.  Then it comes to an
end and leaves the store as it was, and its pages list the bucket: each has the number of its
entries, not more than were asked for and than there may be, and a token just when more is listed;
and together they list every key with what it should begin with and without the delimiter after
that, with its size and digest, and every common stem of the other keys, each once and in the order
of their bytes. -/
theorem browsing_lists {settings : Settings} {s : Store} {user : User} {q : ListingQuery}
    {client : Client} (reached : Reached settings s) (named : Name.checkBucket q.bucket = .ok ())
    (closed : q.bucket ∉ openPaths) (positive : 1 ≤ q.maxKeys) (small : q.maxKeys < 2 ^ 64)
    (asks : ∀ token?, q.Asks token? (client token?).2 ∧
      authenticatedAs settings (client token?).1 (client token?).2 = some user) :
    (∃ pages, Browses settings client s none pages s) ∧
      ∀ pages t, Browses settings client s none pages t →
        t = s ∧ ListsBucket settings s user q pages := by
  have sound := reached.sound
  have small : q.maxKeys ≤ max64 := Nat.le_of_lt_succ small
  refine ⟨browses sound named closed positive small asks none, fun pages t browsing => ?_⟩
  obtain ⟨same, lists⟩ :=
    browsing.lists sound named closed positive small asks rfl none rfl
  refine ⟨same, lists.fits, ?_, ?_, ?_, ?_, ?_⟩
  · rw [lists.contents, List.map_map]
    exact ascending_filterMap (by rintro (_ | _) _ ⟨⟩; rfl) _
  · intro key
    rw [lists.contents, List.map_map, List.mem_map]
    constructor
    · rintro ⟨⟨key, object⟩, member, rfl⟩
      obtain ⟨rest, row, whole, found, apart, -⟩ := (mem_listed_iff sound).mp member
      exact ⟨Option.isSome_of_eq_some found, rest, whole, apart⟩
    · rintro ⟨held, rest, whole, apart⟩
      obtain ⟨row, found⟩ := Option.isSome_iff_exists.mp held
      have listed := (mem_listed_iff sound).mpr ⟨rest, row, whole, found, apart, rfl⟩
      exact ⟨_, listed, rfl⟩
  · intro object member occasion request leads authenticated
    rw [lists.contents, List.mem_map] at member
    obtain ⟨⟨key, shown⟩, member, rfl⟩ := member
    obtain ⟨rest, row, -, found, -, rfl⟩ := (mem_listed_iff sound).mp member
    exact answer_head sound named found leads authenticated
  · have ascending := ascending_filterMap (s := s) (f := commonStem?) (g := id)
      (by rintro (_ | _) _ ⟨⟩; rfl) (q.pageRequest user none)
    rwa [List.map_id, ← lists.commonStems] at ascending
  · intro common
    rw [lists.commonStems, mem_commonStems_iff sound]

/-- A user lists the bucket that they put two objects into, one key at a time. -/
theorem browsing_lists_both :
    ∃ pages,
      Browses KeyClient.settings (KeyClient.client (KeyClient.query "put" 1)) KeyClient.storedBoth
        none pages KeyClient.storedBoth ∧
      ListsBucket KeyClient.settings KeyClient.storedBoth KeyClient.credential.user
        (KeyClient.query "put" 1) pages ∧
      (∀ key, key ∈ ["j", "k"] → key ∈ (pages.flatMap ReadListing.contents).map ReadObject.key) ∧
      1 < pages.length := by
  have before : Reached KeyClient.settings KeyClient.stored :=
    .request .start KeyClient.occasion KeyClient.put
  have reached : Reached KeyClient.settings KeyClient.storedBoth :=
    .request before KeyClient.occasion KeyClient.putOther
  have held : ∀ key, key ∈ ["j", "k"] →
      HoldsKey KeyClient.storedBoth KeyClient.credential.user "put" key := by
    unfold HoldsKey
    decide +kernel
  obtain ⟨⟨pages, browsing⟩, all⟩ := browsing_lists reached
    (show Name.checkBucket "put" = .ok () from rfl)
    (show "put" ∉ openPaths by decide) (show 1 ≤ 1 by decide) (show 1 < 2 ^ 64 by decide)
    (KeyClient.asks 1)
  have lists := (all pages _ browsing).2
  have listed (key : String) (among : key ∈ ["j", "k"]) :
      key ∈ (pages.flatMap ReadListing.contents).map ReadObject.key :=
    (lists.keys key).mpr ⟨held key among, key, String.empty_append.symm, by rintro _ ⟨⟩⟩
  exact ⟨pages, browsing, lists, listed,
    lists.several rfl (listed "j" (by decide)) (listed "k" (by decide)) (by decide)⟩

/-- Not every bucket can be listed under its name, and not every number of keys can be asked for. -/
theorem not_every_listing :
    Name.checkBucket "healthz" = .ok () ∧
      (∀ pages t, ¬ Browses KeyClient.settings (KeyClient.client (KeyClient.query "healthz" 1))
        Store.empty none pages t) ∧
      ∀ pages t, ¬ Browses KeyClient.settings (KeyClient.client (KeyClient.query "put" (2 ^ 64)))
        Store.empty none pages t := by
  have silent (q : ListingQuery)
      (refused : listingIn? ((respond KeyClient.settings (KeyClient.client q none).1
        (KeyClient.client q none).2).run Store.empty).1 = none) (pages : List ReadListing)
      (t : Store) :
      ¬ Browses KeyClient.settings (KeyClient.client q) Store.empty none pages t := by
    rintro (⟨answers, shows, -⟩ | ⟨answers, shows, -, -⟩)
    all_goals
      rw [answers, shows] at refused
      cases refused
  exact ⟨rfl, silent _ (by decide), silent _ (by decide +kernel)⟩

end Depot.Server
