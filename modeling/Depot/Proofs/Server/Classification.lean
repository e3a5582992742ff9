import Depot.Proofs.Server.DeclaredDigest
import Depot.Proofs.Server.Nobody
import Depot.Proofs.Server.Spelling

/-!
# Protocols and routes

Who a request must be from is decided by the protocol of its path, which is read
off the first segment; where it goes is decided by its route, which is matched
against the whole path.
-/

namespace Depot.Server

set_option autoImplicit false

open Depot.Auth
open Depot.Http
open Depot.Text
open Depot.Time

/-! ## The protocols of places -/

/-- The protocol that a place belongs to. -/
def Place.protocol : Place → Protocol
  | .healthz | .readyz => .probe
  | .put _ | .putBinary _ | .get _ | .update _ | .append _ | .rename _ _ | .delete _ => .native
  | .buckets | .bucket _ | .object _ _ => .s3

/-- The protocol that an endpoint belongs to. -/
def Endpoint.protocol : Endpoint → Protocol
  | .live | .ready => .probe
  | .put _ | .putBinary _ | .get _ | .update _ | .append _ | .rename _ _ | .delete _ => .native
  | .listBuckets | .listObjects _ | .headBucket _ | .createBucket _ | .deleteBucket _
  | .putObject _ _ | .getObject _ _ | .headObject _ _ | .postObject _ _ | .deleteObject _ _ => .s3

/-- A route leads to endpoints with a property only. -/
def Route.Leads (P : Endpoint → Prop) (route : Route) : Prop :=
  ∀ endpoint, route = .endpoint endpoint → P endpoint

namespace Route.Leads

variable {P : Endpoint → Prop}

theorem endpoint {endpoint : Endpoint} (holds : P endpoint) : Leads P (.endpoint endpoint) := by
  rintro _ ⟨⟩
  exact holds

theorem withText {parameter sent : String} {next : String → Route}
    (rest : ∀ text, Leads P (next text)) : Leads P (withText parameter sent next) := by
  intro endpoint leads
  unfold Route.withText at leads
  split at leads
  · next text _ => exact rest text endpoint leads
  · cases leads

theorem ite {p : Prop} [Decidable p] {yes no : Route} (first : p → Leads P yes)
    (second : Leads P no) : Leads P (if p then yes else no) := by
  split
  · next holds => exact first holds
  · exact second

end Route.Leads

/-- An endpoint is one of its place: it is of the same protocol, and to create a bucket is to put
one. -/
structure Endpoint.Suits (method : String) (place : Place) (endpoint : Endpoint) : Prop where
  protocol : endpoint.protocol = place.protocol
  creates : ∀ bucket, endpoint = .createBucket bucket →
    method = "PUT" ∧ ∃ sent, place = .bucket sent

/-- Routes lead to endpoints that suit their place. -/
theorem Route.leads_atPlace (method : String) (place : Place) :
    (atPlace method place).Leads (Endpoint.Suits method place) := by
  have key (sent : String) (next : String → Endpoint)
      (suits : ∀ text, (next text).Suits method place) :
      (withKey sent next).Leads (Endpoint.Suits method place) :=
    .withText fun text => .endpoint (suits text)
  have bucket (sent : String) (next : String → Endpoint)
      (suits : ∀ text, (next text).Suits method place) :
      (withBucket sent next).Leads (Endpoint.Suits method place) :=
    .withText fun text => .endpoint (suits text)
  have object (first second : String) (next : String → String → Endpoint)
      (suits : ∀ text text', (next text text').Suits method place) :
      (withObject first second next).Leads (Endpoint.Suits method place) :=
    .withText fun text => .withText fun text' => .endpoint (suits text text')
  have plain {endpoint : Endpoint} (own : endpoint.protocol = place.protocol)
      (other : ∀ bucket, endpoint ≠ .createBucket bucket) : endpoint.Suits method place :=
    ⟨own, fun bucket same => absurd same (other bucket)⟩
  unfold atPlace
  refine .ite (fun _ _ leads => by cases leads) ?_
  cases place with
  | healthz => exact .endpoint (plain rfl nofun)
  | readyz => exact .endpoint (plain rfl nofun)
  | put sent => exact key sent _ fun _ => plain rfl nofun
  | putBinary sent => exact key sent _ fun _ => plain rfl nofun
  | get sent => exact key sent _ fun _ => plain rfl nofun
  | update sent => exact key sent _ fun _ => plain rfl nofun
  | append sent => exact key sent _ fun _ => plain rfl nofun
  | rename old new =>
      exact .withText fun _ => .withText fun _ => .endpoint (plain rfl nofun)
  | delete sent => exact key sent _ fun _ => plain rfl nofun
  | buckets => exact .endpoint (plain rfl nofun)
  | bucket sent =>
      refine .ite (fun _ => bucket sent _ fun _ => plain rfl nofun) ?_
      refine .ite (fun _ => bucket sent _ fun _ => plain rfl nofun) ?_
      refine .ite (fun put => bucket sent _ fun _ => ⟨rfl, fun _ _ => ⟨put, sent, rfl⟩⟩) ?_
      exact bucket sent _ fun _ => plain rfl nofun
  | object first second =>
      refine .ite (fun _ => object first second _ fun _ _ => plain rfl nofun) ?_
      refine .ite (fun _ => object first second _ fun _ _ => plain rfl nofun) ?_
      refine .ite (fun _ => object first second _ fun _ _ => plain rfl nofun) ?_
      refine .ite (fun _ => object first second _ fun _ _ => plain rfl nofun) ?_
      exact object first second _ fun _ _ => plain rfl nofun

/-! ## Native verbs -/

/-- The keys that a native verb takes, as they follow it in a path. -/
inductive Taken : String → List Char → Prop where
  | one {verb : String} {key : List Char} (known : verb ∈ nativeVerbs)
      (single : verb ≠ "update_key") (filled : key ≠ []) : Taken verb key
  | two {old new : List Char} (first : '/' ∉ old) (second : '/' ∉ new) (filled : new ≠ []) :
      Taken "update_key" (old ++ '/' :: new)

/-- A verb that takes one key leads to its place when the key is there. -/
theorem ofVerb?_key {verb : String} (known : verb ∈ nativeVerbs) (single : verb ≠ "update_key")
    (rest : List Char) :
    ∃ place : Place, place.protocol = .native ∧
      Place.ofVerb? verb.toList rest = if rest = [] then none else some place := by
  simp only [nativeVerbs, List.mem_cons, List.not_mem_nil, or_false] at known
  rcases known with rfl | rfl | rfl | rfl | rfl | rfl | rfl
  · exact ⟨.put (String.ofList rest), rfl, by simp [Place.ofVerb?]⟩
  · exact ⟨.putBinary (String.ofList rest), rfl, by simp [Place.ofVerb?]⟩
  · exact ⟨.get (String.ofList rest), rfl, by simp [Place.ofVerb?]⟩
  · exact ⟨.update (String.ofList rest), rfl, by simp [Place.ofVerb?]⟩
  · exact ⟨.append (String.ofList rest), rfl, by simp [Place.ofVerb?]⟩
  · exact absurd rfl single
  · exact ⟨.delete (String.ofList rest), rfl, by simp [Place.ofVerb?]⟩

namespace Taken

variable {verb : String} {keys : List Char}

theorem known (taken : Taken verb keys) : verb ∈ nativeVerbs := by
  cases taken with
  | one known _ _ => exact known
  | two _ _ _ => decide

/-- A native verb leads to a place of its protocol when it is given the keys that it takes. -/
theorem ofVerb? (taken : Taken verb keys) :
    ∃ place, Place.ofVerb? verb.toList keys = some place ∧ place.protocol = .native := by
  cases taken with
  | one known single filled =>
      obtain ⟨place, own, leads⟩ := ofVerb?_key known single keys
      exact ⟨place, leads.trans (if_neg filled), own⟩
  | @two old new first second filled =>
      refine ⟨.rename (String.ofList old) (String.ofList new), ?_, rfl⟩
      rw [ofVerb?_update_key, cutAt_append first]
      exact if_neg (not_or.mpr ⟨filled, second⟩)

end Taken

/-- Only native verbs with the keys that they take lead to places of the native protocol. -/
theorem taken_of_ofVerb? {verb keys : List Char} {place : Place}
    (leads : Place.ofVerb? verb keys = some place) :
    ∃ word, verb = word.toList ∧ Taken word keys := by
  by_cases native : ∃ word, word ∈ nativeVerbs ∧ verb = word.toList
  · obtain ⟨word, known, rfl⟩ := native
    refine ⟨word, rfl, ?_⟩
    by_cases single : word = "update_key"
    · subst single
      rw [ofVerb?_update_key] at leads
      rcases clean_or_append '/' keys with clean | ⟨old, new, first, rfl⟩
      · rw [cutAt_eq_none clean] at leads
        cases leads
      · rw [cutAt_append first, Option.bind_some] at leads
        split at leads
        · cases leads
        · next given =>
            rw [not_or] at given
            exact .two first given.2 given.1
    · obtain ⟨_, -, same⟩ := ofVerb?_key known single keys
      refine .one known single fun none => ?_
      rw [same, if_pos none] at leads
      cases leads
  · have other : ∀ word, word ∈ nativeVerbs → verb ≠ word.toList :=
      fun word known same => native ⟨word, known, same⟩
    rw [ofVerb?_eq_none other] at leads
    cases leads

/-! ## Regular paths -/

/-- A path that leads to a place of its protocol: a probe, a native verb with the keys that it
takes, or a path of the S3 protocol. -/
inductive Regular : String → Prop where
  | probe {name : String} (known : name ∈ openPaths) : Regular ("/" ++ name)
  | native {verb : String} {keys : List Char} (taken : Taken verb keys) :
      Regular ("/" ++ verb ++ "/" ++ String.ofList keys)
  | s3 {path : String} (own : Protocol.ofPath path = .s3) : Regular path

theorem Place.protocol_ofS3 (path : List Char) : (Place.ofS3 path).protocol = .s3 := by
  unfold Place.ofS3
  split
  · split <;> rfl
  · split <;> rfl

/-- A path, given without its first slash, leads to a probe, to a native verb with the keys that it
takes, or to the S3 protocol. -/
theorem Place.ofRest_cases (rest : List Char) :
    (∃ name, name ∈ openPaths ∧ rest = name.toList ∧ (Place.ofRest rest).protocol = .probe) ∨
    (∃ verb keys, Taken verb keys ∧ rest = verb.toList ++ '/' :: keys ∧
      (Place.ofRest rest).protocol = .native) ∨
    (Place.ofRest rest).protocol = .s3 := by
  by_cases live : rest = "healthz".toList
  · exact .inl ⟨"healthz", by decide, live, by rw [live]; rfl⟩
  by_cases ready : rest = "readyz".toList
  · exact .inl ⟨"readyz", by decide, ready, by rw [ready]; rfl⟩
  right
  unfold Place.ofRest
  rw [if_neg live, if_neg ready]
  by_cases mounted : rest = "s3".toList
  · rw [if_pos mounted]
    exact .inr rfl
  rw [if_neg mounted]
  rcases clean_or_append '/' rest with clean | ⟨first, after, clean, rfl⟩
  · rw [cutAt_eq_none clean]
    exact .inr (protocol_ofS3 rest)
  rw [cutAt_append clean]
  dsimp only
  by_cases below : first = "s3".toList ∧ after ≠ []
  · rw [if_pos below]
    exact .inr (protocol_ofS3 after)
  rw [if_neg below]
  cases leads : Place.ofVerb? first after with
  | none => exact .inr (protocol_ofS3 _)
  | some place =>
      obtain ⟨verb, rfl, taken⟩ := taken_of_ofVerb? leads
      obtain ⟨_, same, own⟩ := taken.ofVerb?
      rw [same] at leads
      cases leads
      exact .inl ⟨verb, after, taken, rfl, own⟩

/-- A native verb with the keys that it takes leads to the native protocol. -/
theorem Taken.protocol_ofRest {verb : String} {keys : List Char} (taken : Taken verb keys) :
    (Place.ofRest (verb.toList ++ '/' :: keys)).protocol = .native := by
  have clean : '/' ∉ verb.toList := by
    have every : ∀ word, word ∈ nativeVerbs → '/' ∉ word.toList := by decide
    exact every verb taken.known
  have divided {word : List Char} (single : '/' ∉ word) : verb.toList ++ '/' :: keys ≠ word :=
    fun same => single (same ▸ List.mem_append_cons_self)
  have other : ¬ (verb.toList = "s3".toList ∧ keys ≠ []) := by
    have every : ∀ word, word ∈ nativeVerbs → word.toList ≠ "s3".toList := by decide
    exact fun below => every verb taken.known below.1
  obtain ⟨place, leads, own⟩ := taken.ofVerb?
  unfold Place.ofRest
  rw [if_neg (divided (by decide)), if_neg (divided (by decide)), if_neg (divided (by decide)),
    cutAt_append clean]
  dsimp only
  rw [if_neg other, leads]
  exact own

/-- The one slash before the first segment is trimmed. -/
theorem trimStart_segment {first : List Char} (clean : '/' ∉ first) (filled : first ≠ [])
    (tail : List Char) :
    trimStart (fun c => c == '/') ('/' :: (first ++ tail)) = first ++ tail := by
  refine (List.dropWhile_cons_of_pos rfl).trans (dropWhile_eq_self fun c leads => ?_)
  have member : c ∈ first := by
    rw [List.head?_append, List.head?_eq_some_head filled] at leads
    cases leads
    exact List.head_mem filled
  simpa using kept_of_clean clean c member

/-- A path that begins with a native verb is of the native protocol. -/
theorem Protocol.ofPath_verb {verb : String} (known : verb ∈ nativeVerbs) (keys : List Char) :
    Protocol.ofPath (String.ofList ('/' :: (verb.toList ++ '/' :: keys))) = .native := by
  have every : ∀ word, word ∈ nativeVerbs → '/' ∉ word.toList ∧ word.toList ≠ [] := by decide
  obtain ⟨clean, filled⟩ := every verb known
  have first : String.ofList ((verb.toList ++ '/' :: keys).takeWhile (· != '/')) = verb := by
    rw [← segment, segment_append clean, String.ofList_toList]
  unfold Protocol.ofPath
  simp only [String.toList_ofList, trimStart_segment clean filled, first, List.contains_iff_mem,
    known, if_true]

/-- A path of the probes begins with one of them. -/
theorem Protocol.mem_openPaths {first tail : List Char} (clean : '/' ∉ first) (filled : first ≠ [])
    (leads : segment (first ++ tail) = first)
    (probed : Protocol.ofPath (String.ofList ('/' :: (first ++ tail))) = .probe) :
    String.ofList first ∈ openPaths := by
  unfold segment at leads
  unfold Protocol.ofPath at probed
  simp only [String.toList_ofList, trimStart_segment clean filled, leads] at probed
  split at probed
  · cases probed
  · split at probed
    · next both => exact List.contains_iff_mem.mp (Bool.and_eq_true_iff.mp both).1
    · cases probed

/-- A path that names a probe is one of the probes. -/
theorem Protocol.ofPath_probe {name : String} (known : name ∈ openPaths) :
    Protocol.ofPath (String.ofList ('/' :: name.toList)) = .probe ∧
      (Place.ofRest name.toList).protocol = .probe := by
  have every : ∀ word, word ∈ openPaths →
      Protocol.ofPath (String.ofList ('/' :: word.toList)) = .probe ∧
        (Place.ofRest word.toList).protocol = .probe := by decide
  exact every name known

theorem spelled_probe (name : String) : "/" ++ name = String.ofList ('/' :: name.toList) := by
  rw [← List.singleton_append, String.ofList_append, String.ofList_toList]

theorem spelled_verb (verb : String) (keys : List Char) :
    "/" ++ verb ++ "/" ++ String.ofList keys =
      String.ofList ('/' :: (verb.toList ++ '/' :: keys)) := by
  have ends : "/" ++ String.ofList keys = String.ofList ('/' :: keys) := by
    rw [spelled_probe, String.toList_ofList]
  rw [String.append_assoc, ends, String.append_assoc, spelled_probe, String.toList_append,
    String.toList_ofList]

/-- Where a path leads, and of which protocol it is, agree for the regular paths alone. -/
theorem protocol_ofRest_iff (rest : List Char) :
    (Place.ofRest rest).protocol = Protocol.ofPath (String.ofList ('/' :: rest)) ↔
      Regular (String.ofList ('/' :: rest)) := by
  constructor
  · intro same
    rcases Place.ofRest_cases rest with ⟨name, known, rfl, -⟩ | ⟨verb, keys, taken, rfl, -⟩ | place
    · rw [← spelled_probe]
      exact .probe known
    · rw [← spelled_verb]
      exact .native taken
    · exact .s3 (same.symm.trans place)
  · generalize sent : String.ofList ('/' :: rest) = path
    rintro (known | taken | own)
    · rw [spelled_probe, String.ofList_inj, List.cons_inj_right] at sent
      obtain ⟨protocol, place⟩ := Protocol.ofPath_probe known
      rw [sent, place, spelled_probe, protocol]
    · rw [spelled_verb, String.ofList_inj, List.cons_inj_right] at sent
      rw [sent, taken.protocol_ofRest, spelled_verb, Protocol.ofPath_verb taken.known]
    · rw [own]
      subst sent
      -- Whatever else the path could lead to has a protocol of its own, read off the path.
      rcases Place.ofRest_cases rest with ⟨name, known, rfl, -⟩ | ⟨verb, keys, taken, rfl, -⟩ |
        place
      · rw [(Protocol.ofPath_probe known).1] at own
        cases own
      · rw [Protocol.ofPath_verb taken.known] at own
        cases own
      · exact place

/-- A route to an endpoint goes through a place that the endpoint suits. -/
theorem Route.of_endpoint {method path : String} {endpoint : Endpoint}
    (leads : Route.of method path = .endpoint endpoint) :
    ∃ rest, path = String.ofList ('/' :: rest) ∧ endpoint.Suits method (Place.ofRest rest) := by
  unfold Route.of Place.ofPath? at leads
  split at leads
  · cases leads
  · next place found =>
      split at found
      · next rest sent =>
          cases found
          refine ⟨rest, ?_, Route.leads_atPlace method (Place.ofRest rest) endpoint leads⟩
          rw [← sent, String.ofList_toList]
      · cases found

/-- An endpoint is of the protocol of the path that leads to it when the path is regular. -/
theorem endpoint_protocol_iff {method path : String} {endpoint : Endpoint}
    (leads : Route.of method path = .endpoint endpoint) :
    endpoint.protocol = Protocol.ofPath path ↔ Regular path := by
  obtain ⟨rest, rfl, suits⟩ := Route.of_endpoint leads
  rw [suits.protocol, protocol_ofRest_iff]

/-! ## Who endpoints run for -/

section

variable {settings : Settings} {occasion : Occasion} {request : Request} {endpoint : Endpoint}

/-- The endpoints that do without a user. -/
def Endpoint.Open : Endpoint → Prop
  | .live | .ready | .createBucket _ => True
  | _ => False

/-- An endpoint runs for a request when its route leads there, and the request is authenticated or,
at a path of the probes, the endpoint does without a user. -/
def Runs (settings : Settings) (occasion : Occasion) (request : Request) (endpoint : Endpoint) :
    Prop :=
  Route.of request.method request.target.path = .endpoint endpoint ∧
    ((authenticatedAs settings occasion request).isSome ∨
      Protocol.ofPath request.target.path = .probe ∧ endpoint.Open)

/-- A request carries a signature that is verified. -/
def Signed (settings : Settings) (occasion : Occasion) (request : Request) : Prop :=
  request.headers.has "authorization" ∧
    ∃ payloadHash body user,
      signedBody request.headers settings.maxBufferedBytes request.body = .ok (payloadHash, body) ∧
      settings.verifier.verify ⟨request.method, request.target, request.headers, payloadHash⟩
        occasion.now = .ok user

theorem Rejection.isError_response (rejection : Rejection) (protocol : Protocol)
    (path requestId : String) : IsError (rejection.response protocol path requestId).status := by
  cases protocol <;> cases rejection <;> exact Nat.le_of_ble_eq_true rfl

/-- Where a route leads to no endpoint, the answer is an error. -/
theorem answer_of_no_endpoint {route : Route} (none : ∀ endpoint, route ≠ .endpoint endpoint)
    (body : Body) (user? : Option User) (s : Store) :
    let done := (answer settings occasion request body user? route).run s
    IsError done.1.status ∧ done.2 = s := by
  cases route with
  | nowhere => exact ⟨Nat.le_of_ble_eq_true rfl, rfl⟩
  | wrongMethod allowed => exact ⟨Nat.le_of_ble_eq_true rfl, rfl⟩
  | badText parameter => exact ⟨Nat.le_of_ble_eq_true rfl, rfl⟩
  | endpoint endpoint => exact absurd rfl (none endpoint)

/-- An endpoint that needs a user answers nobody with an error. -/
theorem answerNobody_of_not_open (closed : ¬ endpoint.Open) (s : Store) :
    (answerNobody occasion endpoint).run s = (userMissing, s) := by
  cases endpoint <;> first | rfl | exact absurd trivial closed

/-- Where no endpoint runs, the response is an error and nothing changes. -/
theorem respond_idle (idle : ∀ endpoint, ¬ Runs settings occasion request endpoint) (s : Store) :
    IsError ((respond settings occasion request).run s).1.status ∧
      ((respond settings occasion request).run s).2 = s := by
  cases authenticated : authenticatedAs settings occasion request with
  | some user =>
      have none : ∀ endpoint, Route.of request.method request.target.path ≠ .endpoint endpoint :=
        fun endpoint leads => idle endpoint ⟨leads, .inl (by rw [authenticated]; rfl)⟩
      obtain ⟨body, -, responds⟩ := respond_run_user authenticated
      rw [responds]
      dsimp only
      rw [finish_status]
      exact answer_of_no_endpoint none body (some user) s
  | none =>
      rcases authenticatedAs_eq_none_iff.mp authenticated with
        probed | ⟨addressed, rejection, rejected⟩
      · rw [respond_run_probe probed]
        dsimp only
        rw [finish_status]
        by_cases ends : ∃ endpoint, Route.of request.method request.target.path = .endpoint endpoint
        · obtain ⟨endpoint, leads⟩ := ends
          have closed : ¬ endpoint.Open :=
            fun isOpen => idle endpoint ⟨leads, .inr ⟨probed, isOpen⟩⟩
          have answered : (answer settings occasion request request.body none
              (.endpoint endpoint)).run s = (userMissing, s) := answerNobody_of_not_open closed s
          rw [leads, answered]
          exact ⟨Nat.le_of_ble_eq_true rfl, rfl⟩
        · exact answer_of_no_endpoint (fun endpoint leads => ends ⟨endpoint, leads⟩)
            request.body none s
      · rw [respond_run_rejected addressed rejected]
        dsimp only
        rw [finish_status]
        exact ⟨rejection.isError_response .., rfl⟩

/-- At a regular path an endpoint of the S3 protocol runs for verified signatures only. -/
theorem Runs.signed (runs : Runs settings occasion request endpoint)
    (regular : Regular request.target.path) (own : endpoint.protocol = .s3) :
    Signed settings occasion request := by
  obtain ⟨leads, either⟩ := runs
  have protocol : Protocol.ofPath request.target.path = .s3 :=
    ((endpoint_protocol_iff leads).mpr regular).symm.trans own
  rw [protocol] at either
  obtain known | ⟨probed, -⟩ := either
  · obtain ⟨user, authenticated⟩ := Option.isSome_iff_exists.mp known
    obtain ⟨body, admitted, -⟩ := respond_run_user authenticated
    rw [protocol] at admitted
    by_cases signed : request.headers.has "authorization"
    · rcases admission_cases signed settings.verifier settings.maxBufferedBytes .s3 with
        ⟨fault, -, refused⟩ | ⟨payloadHash, checked, covered, verdict⟩
      · rw [refused] at admitted
        cases admitted
      · obtain ⟨user', verified, -⟩ | ⟨fault, -, refused⟩ := verdict occasion.now
        · exact ⟨signed, payloadHash, checked, user', covered, verified⟩
        · rw [refused] at admitted
          cases admitted
    · unfold admission at admitted
      rw [if_neg signed] at admitted
      cases admitted
  · cases probed

/-- What stands before the first slash is a bucket, unless it has a meaning of its own. -/
theorem Place.ofRest_append {first after : List Char} (clean : '/' ∉ first)
    (unmounted : first ≠ "s3".toList) (other : ∀ verb, verb ∈ nativeVerbs → first ≠ verb.toList) :
    Place.ofRest (first ++ '/' :: after) =
      if after = [] then .bucket (String.ofList first)
      else .object (String.ofList first) (String.ofList after) := by
  have divided {word : List Char} (single : '/' ∉ word) : first ++ '/' :: after ≠ word :=
    fun same => single (same ▸ List.mem_append_cons_self)
  unfold Place.ofRest
  rw [if_neg (divided (by decide)), if_neg (divided (by decide)), if_neg (divided (by decide)),
    cutAt_append clean]
  dsimp only
  rw [if_neg (fun both => unmounted both.1), ofVerb?_eq_none other, Option.getD_none, Place.ofS3,
    cutAt_append clean]
  simp only [List.isEmpty_iff]

/-- A bucket at a path of the probes has the name of a probe and a slash after it. -/
theorem ofRest_bucket {rest : List Char} {sent : String}
    (leads : Place.ofRest rest = .bucket sent)
    (probed : Protocol.ofPath (String.ofList ('/' :: rest)) = .probe) :
    ∃ name, name ∈ openPaths ∧ rest = name.toList ++ ['/'] := by
  rcases clean_or_append '/' rest with clean | ⟨first, after, clean, rfl⟩
  · by_cases filled : rest = []
    · rw [filled] at leads
      cases leads
    · have known : String.ofList rest ∈ openPaths := by
        refine @Protocol.mem_openPaths rest [] clean filled ?_ ?_
        · rw [List.append_nil, segment_of_clean clean]
        · rwa [List.append_nil]
      have place := (Protocol.ofPath_probe known).2
      rw [String.toList_ofList, leads] at place
      cases place
  · by_cases filled : first = []
    · subst filled
      rw [Place.ofRest_append clean (by decide) (by decide)] at leads
      split at leads
      · next empty =>
          subst empty
          exact absurd probed (by decide)
      · cases leads
    · have known := Protocol.mem_openPaths clean filled (segment_append clean after) probed
      have every : ∀ word, word ∈ openPaths → word.toList ≠ "s3".toList ∧
          ∀ verb, verb ∈ nativeVerbs → word.toList ≠ verb.toList := by decide
      obtain ⟨unmounted, other⟩ := every _ known
      rw [String.toList_ofList] at unmounted other
      rw [Place.ofRest_append clean unmounted other] at leads
      split at leads
      · next empty =>
          subst empty
          exact ⟨String.ofList first, known, by rw [String.toList_ofList]⟩
      · cases leads

/-- What runs for nobody is a probe, or the creation of a bucket with the name of a probe and a
slash after it. -/
theorem Runs.of_nobody (runs : Runs settings occasion request endpoint)
    (nobody : authenticatedAs settings occasion request = none) :
    endpoint.protocol = .probe ∨
      request.method = "PUT" ∧
        ∃ name, name ∈ openPaths ∧ request.target.path = "/" ++ name ++ "/" := by
  obtain ⟨leads, either⟩ := runs
  rw [nobody] at either
  obtain known | ⟨probed, isOpen⟩ := either
  · cases known
  cases endpoint with
  | live => exact .inl rfl
  | ready => exact .inl rfl
  | createBucket bucket =>
      obtain ⟨rest, path, suits⟩ := Route.of_endpoint leads
      obtain ⟨put, sent, place⟩ := suits.creates bucket rfl
      rw [path] at probed
      obtain ⟨name, known, whole⟩ := ofRest_bucket place probed
      refine .inr ⟨put, name, known, ?_⟩
      rw [path, whole, String.append_assoc, spelled_probe, String.toList_append]
      rfl
  | _ => exact absurd isOpen id

end

/-! ## Protocols agree with routes -/

/-- **Endpoints are guarded by the protocol of their path, when that is regular.**  A path leads
to endpoints of its own protocol when it is regular, and otherwise to endpoints of another one.  At
a regular path an endpoint of the S3 protocol runs only for a verified signature.  And a request
that is not authenticated is answered with an error unless it leads to a probe, or creates a bucket
at the path of a probe with a slash after it. -/
theorem protocol_guards_endpoints (settings : Settings) (occasion : Occasion) (request : Request) :
    (∀ endpoint, Route.of request.method request.target.path = .endpoint endpoint →
      (endpoint.protocol = Protocol.ofPath request.target.path ↔ Regular request.target.path)) ∧
    (Regular request.target.path → ∀ endpoint, endpoint.protocol = .s3 →
      Runs settings occasion request endpoint → Signed settings occasion request) ∧
    (authenticatedAs settings occasion request = none → ∀ s,
      ¬ IsError ((respond settings occasion request).run s).1.status →
        (∃ endpoint, endpoint.protocol = .probe ∧
          Route.of request.method request.target.path = .endpoint endpoint) ∨
        request.method = "PUT" ∧ ∃ name, name ∈ openPaths ∧
          request.target.path = "/" ++ name ++ "/") := by
  refine ⟨fun endpoint leads => endpoint_protocol_iff leads,
    fun regular endpoint own runs => runs.signed regular own, fun nobody s well => ?_⟩
  by_cases idle : ∀ endpoint, ¬ Runs settings occasion request endpoint
  · exact absurd (respond_idle idle s).1 well
  · obtain ⟨endpoint, runs⟩ := Classical.not_forall_not.mp idle
    obtain probe | created := runs.of_nobody nobody
    · exact .inl ⟨endpoint, probe, runs.1⟩
    · exact .inr created

/-- A put runs for its signature. -/
theorem put_guarded_by_signature :
    let request := SignedPut.request zeros SignedPut.body
    Regular request.target.path ∧
      Runs SignedClient.settings SignedClient.occasion request (.putObject "box" "k") ∧
      Signed SignedClient.settings SignedClient.occasion request := by
  intro request
  have regular : Regular request.target.path := by
    refine .s3 ?_
    show Protocol.ofPath "/box/k" = .s3
    decide
  have authenticated : authenticatedAs SignedClient.settings SignedClient.occasion request =
      some SignedClient.credential.user :=
    SignedPut.authenticated (by decide) (by decide) SignedPut.body
  have runs : Runs SignedClient.settings SignedClient.occasion request (.putObject "box" "k") :=
    ⟨SignedPut.leads _ _, .inl (by rw [authenticated]; rfl)⟩
  exact ⟨regular, runs, (protocol_guards_endpoints SignedClient.settings SignedClient.occasion
    request).2.1 regular _ rfl runs⟩

/-- A native verb without key and a probe with a slash after it lead to buckets of these names. -/
example :
    Protocol.ofPath "/put" = .native ∧
      Route.of "GET" "/put" = .endpoint (.listObjects "put") ∧
      Protocol.ofPath "/healthz/" = .probe ∧
      Route.of "PUT" "/healthz/" = .endpoint (.createBucket "healthz") := by
  decide +kernel

end Depot.Server
