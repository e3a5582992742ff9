import Depot.Config.Resolved
import Depot.Proofs.Server.Endpoints
import Depot.Server.Respond

/-!
# Users are apart

A request that is authenticated as a user leaves everything that belongs to
other users as it was, and is answered alike in any two states of the server
that hold the same for this user (`tenants_apart`).  The states are those that
runs of requests lead to from the empty store.

The names of uploads are drawn anew: between requests the number of the next
upload may be any that has not been passed.
-/

namespace Depot.Server

set_option autoImplicit false

open Depot.Auth
open Depot.Http
open Depot.Name
open Depot.Text
open Depot.Time

/-! ## Discreet responses -/

/-- In sound stores, a response leaves a sound store, spares what is not the owner's, and is the
same in two stores that agree for the owner. -/
structure Discreet (owner : String) (action : StateM Store Response) : Prop where
  sound : ∀ {s : Store}, s.Sound → (action.run s).2.Sound
  spares : ∀ {s : Store}, s.Sound →
    Store.Spares (fun identifier => ¬ inScope owner identifier) s (action.run s).2
  alike : ∀ {s s' : Store}, s.Sound → s'.Sound → Shelf.Agree owner s.shelf s'.shelf →
    (action.run s).1 = (action.run s').1 ∧
      Shelf.Agree owner (action.run s).2.shelf (action.run s').2.shelf

namespace Discreet

variable {owner : String}

theorem pure (response : Response) : Discreet owner (pure response) where
  sound sound := sound
  spares _ := .refl _
  alike _ _ agree := ⟨rfl, agree⟩

/-- All devices of a sound store do their work. -/
theorem ready : Discreet owner (do return readyResponse (← get).health) where
  sound sound := sound
  spares _ := .refl _
  alike {s s'} sound sound' agree := by
    refine ⟨?_, agree⟩
    show readyResponse s.health = readyResponse s'.health
    rw [sound.health, sound'.health]

/-- The response that an operation comes to, given how its faults are answered. -/
def rendered {ε : Type} (render : ε → Response) : Except ε Response → Response
  | .ok response => response
  | .error fault => render fault

theorem run_answering {ε : Type} (render : ε → Response)
    (action : ExceptT ε (StateM Store) Response) (s : Store) :
    (Server.answering render action).run s =
      (rendered render (outcome action s).1, (outcome action s).2) := by
  show _ = (rendered render (action.run.run s).1, (action.run.run s).2)
  unfold Server.answering
  rw [StateT.run_bind]
  obtain ⟨fault | response, t⟩ := action.run.run s <;> rfl

/-- A private operation, with its answer or its fault rendered, is discreet. -/
theorem answering {ε : Type} {action : ExceptT ε (StateM Store) Response}
    (isPrivate : Private owner id action) (render : ε → Response) :
    Discreet owner (answering render action) := by
  refine ⟨?_, ?_, ?_⟩
  · intro s sound
    rw [run_answering]
    exact isPrivate.sound sound
  · intro s sound
    rw [run_answering]
    exact isPrivate.spares sound
  · intro s s' sound sound' agree
    rw [run_answering, run_answering]
    obtain ⟨t, t', -, -, agrees, result⟩ := isPrivate.both sound sound' agree
    rcases result with ⟨fault, fails, fails'⟩ | ⟨a, a', seen, answers, answers'⟩
    · rw [fails, fails']
      exact ⟨rfl, agrees⟩
    · rw [answers, answers']
      exact ⟨seen, agrees⟩

theorem map {action : StateM Store Response} (discreet : Discreet owner action)
    (f : Response → Response) :
    Discreet owner (do
      let response ← action
      return f response) where
  sound sound := discreet.sound sound
  spares sound := discreet.spares sound
  alike sound sound' agree := by
    obtain ⟨same, agrees⟩ := discreet.alike sound sound' agree
    exact ⟨congrArg f same, agrees⟩

theorem withQuery {target : Target} {known : List String}
    {next : List Parameter → StateM Store Response}
    (rest : ∀ params, Discreet owner (next params)) :
    Discreet owner (withQuery target known next) := by
  unfold Server.withQuery
  dsimp only
  split
  · exact .pure _
  · exact rest _

end Discreet

/-! ## Responses to a user -/

theorem createBucket_discreet (owner : String) (occasion : Occasion) (bucket : String) :
    Discreet owner (answerS3 occasion (liftM (S3.createBucket bucket))) :=
  .answering (.lift _) _

/-- Every endpoint answers its user discreetly. -/
theorem answerUser_discreet (settings : Settings) (occasion : Occasion) (request : Request)
    (body : Body) (user : User) (endpoint : Endpoint) :
    Discreet user.userId (answerUser settings occasion request body user endpoint) := by
  cases endpoint with
  | live => exact .pure _
  | ready => exact .ready
  | put key => exact .answering (Native.put_private key _ body _) _
  | putBinary key =>
      unfold answerUser
      dsimp only
      split
      · exact .pure _
      · exact .answering (Native.putForm_private settings.forms key _ _ _ body _) _
  | get key => exact .answering (Native.get_private key _) _
  | update key => exact .answering (Native.update_private key _ body _) _
  | append key => exact .answering (Native.append_private key _ body _) _
  | rename old new => exact .answering (Native.rename_private old new _ _) _
  | delete key => exact .answering (Native.delete_private key _) _
  | listBuckets => exact .answering S3.listBuckets_private _
  | listObjects bucket =>
      exact .withQuery fun params => .answering (S3.listObjects_private bucket params _) _
  | headBucket bucket => exact .answering (S3.headBucket_private bucket) _
  | createBucket bucket => exact createBucket_discreet user.userId occasion bucket
  | deleteBucket bucket => exact .answering (S3.deleteBucket_private bucket) _
  | putObject bucket key =>
      exact .withQuery fun params =>
        .answering (S3.putObject_private bucket key params _ body _) _
  | getObject bucket key =>
      exact .withQuery fun params => .answering (S3.getObject_private bucket key params _) _
  | headObject bucket key => exact .answering (S3.headObject_private bucket key) _
  | postObject bucket key =>
      exact .withQuery fun params =>
        .answering (S3.postObject_private bucket key params _ body _) _
  | deleteObject bucket key =>
      exact .withQuery fun params => .answering (S3.deleteObject_private bucket key params) _

/-! ## Requests -/

/-- Who a request is authenticated as.  Nobody asks the probes. -/
def authenticatedAs (settings : Settings) (occasion : Occasion) (request : Request) :
    Option User :=
  let protocol := Protocol.ofPath request.target.path
  if protocol = .probe then none
  else
    match admission settings.verifier settings.maxBufferedBytes occasion.now protocol request with
    | .ok (user, _) => some user
    | .error _ => none

/-- The response to an authenticated request is the answer at its route, as it is sent. -/
theorem respond_of_authenticated {settings : Settings} {occasion : Occasion} {request : Request}
    {user : User} (authenticated : authenticatedAs settings occasion request = some user) :
    ∃ body,
      admission settings.verifier settings.maxBufferedBytes occasion.now
        (Protocol.ofPath request.target.path) request = .ok (user, body) ∧
      respond settings occasion request =
        let route := Route.of request.method request.target.path
        (do
          let response ← answer settings occasion request body (some user) route
          return finish request.method route response) := by
  unfold authenticatedAs at authenticated
  unfold respond
  dsimp only at authenticated ⊢
  by_cases probed : Protocol.ofPath request.target.path = .probe
  · rw [if_pos probed] at authenticated
    cases authenticated
  · rw [if_neg probed] at authenticated ⊢
    cases verdict : admission settings.verifier settings.maxBufferedBytes occasion.now
        (Protocol.ofPath request.target.path) request with
    | error rejection =>
        rw [verdict] at authenticated
        cases authenticated
    | ok admitted =>
        obtain ⟨known, body⟩ := admitted
        rw [verdict] at authenticated
        cases authenticated
        exact ⟨body, rfl, rfl⟩

/-- The response to an authenticated request is discreet. -/
theorem respond_discreet {settings : Settings} {occasion : Occasion} {request : Request}
    {user : User} (authenticated : authenticatedAs settings occasion request = some user) :
    Discreet user.userId (respond settings occasion request) := by
  obtain ⟨body, -, responds⟩ := respond_of_authenticated authenticated
  rw [responds]
  refine .map ?_ _
  cases Route.of request.method request.target.path with
  | endpoint endpoint => exact answerUser_discreet settings occasion request body user endpoint
  | nowhere => exact .pure _
  | wrongMethod allowed => exact .pure _
  | badText parameter => exact .pure _

/-- A request that is not authenticated sees and changes nothing of anybody. -/
theorem respond_discreet_nobody {settings : Settings} {occasion : Occasion} {request : Request}
    (nobody : authenticatedAs settings occasion request = none) (owner : String) :
    Discreet owner (respond settings occasion request) := by
  unfold authenticatedAs at nobody
  unfold respond
  dsimp only at nobody ⊢
  by_cases probed : Protocol.ofPath request.target.path = .probe
  · rw [if_pos probed]
    refine .map ?_ _
    cases Route.of request.method request.target.path with
    | endpoint endpoint =>
        cases endpoint with
        | ready => exact .ready
        | createBucket bucket => exact createBucket_discreet owner occasion bucket
        | _ => exact .pure _
    | nowhere => exact .pure _
    | wrongMethod allowed => exact .pure _
    | badText parameter => exact .pure _
  · rw [if_neg probed] at nobody ⊢
    cases verdict : admission settings.verifier settings.maxBufferedBytes occasion.now
        (Protocol.ofPath request.target.path) request with
    | error rejection => exact .map (.pure _) _
    | ok admitted =>
        rw [verdict] at nobody
        cases nobody

/-- Every response leaves a sound store. -/
theorem respond_sound (settings : Settings) (occasion : Occasion) (request : Request)
    {s : Store} (sound : s.Sound) : ((respond settings occasion request).run s).2.Sound := by
  cases authenticated : authenticatedAs settings occasion request with
  | none => exact (respond_discreet_nobody authenticated "").sound sound
  | some user => exact (respond_discreet authenticated).sound sound

/-! ## Runs -/

/-- The states that a server comes to: it starts empty, answers requests, and draws the number of
the next upload among those not passed. -/
inductive Reached (settings : Settings) : Store → Prop where
  | start : Reached settings Store.empty
  | request {s : Store} (reached : Reached settings s) (occasion : Occasion)
      (request : Request) : Reached settings ((respond settings occasion request).run s).2
  | draw {s : Store} (reached : Reached settings s) {next : Nat} (fresh : s.nextUpload ≤ next) :
      Reached settings { s with nextUpload := next }

theorem Reached.sound {settings : Settings} {s : Store} (reached : Reached settings s) :
    s.Sound := by
  induction reached with
  | start => exact Store.sound_empty
  | request _ occasion request sound => exact respond_sound settings occasion request sound
  | draw _ fresh sound => exact sound.draw fresh

/-- A user id does not contain the mark that ends an owner. -/
theorem ownerMark_not_mem {userId : String} (known : Config.Surroundings.isUserId userId) :
    ownerMark ∉ userId.toList := by
  intro member
  have clean : userId.toList.any isControl = false := by
    simpa [Config.Surroundings.isUserId] using (Bool.and_eq_true_iff.mp known).2
  exact absurd (List.any_eq_false.mp clean ownerMark member) (by decide)

/-- **Users are apart.**  In every state that a server comes to, a request that is authenticated as
a user leaves all rows, contents, uploads and parts of every other user as they were.  And its
response is the same in any two such states that hold the same for the user and draw the same number
for the next upload. -/
theorem tenants_apart {settings : Settings} {s : Store} (reached : Reached settings s)
    {occasion : Occasion} {request : Request} {user : User}
    (authenticated : authenticatedAs settings occasion request = some user)
    (known : Config.Surroundings.isUserId user.userId) :
    (∀ other, Config.Surroundings.isUserId other → other ≠ user.userId →
      Store.Spares (fun identifier => inScope other identifier) s
        ((respond settings occasion request).run s).2) ∧
    ∀ s', Reached settings s' →
      s.shelf.belongings user.userId = s'.shelf.belongings user.userId →
      s.nextUpload = s'.nextUpload →
      ((respond settings occasion request).run s).1 =
        ((respond settings occasion request).run s').1 := by
  have discreet := respond_discreet authenticated
  refine ⟨?_, ?_⟩
  · intro other otherKnown differs
    refine Store.Spares.mono ?_ (discreet.spares reached.sound)
    intro identifier theirs mine
    exact differs
      (owner_unique (ownerMark_not_mem otherKnown) (ownerMark_not_mem known) theirs mine)
  · intro s' reached' belongings nextUpload
    exact (discreet.alike reached.sound reached'.sound ⟨belongings, nextUpload⟩).1

/-- Two users put objects of the same name; then the one deletes hers, and is answered as if the
other had none, whose object stays. -/
theorem delete_apart :
    let ann : Credential := ⟨"ann", "key", "secret"⟩
    let bob : Credential := ⟨"bob", "other", "secret"⟩
    let settings : Settings :=
      { verifier := ⟨.ofList [ann, bob], "us-east-1", 900⟩
        maxBodyBytes := 1024
        maxBufferedBytes := 1024 }
    let occasion : Occasion := ⟨⟨0, 0⟩, "r"⟩
    let sent (user key method path content : String) : Request :=
      ⟨method, ⟨none, path, none⟩,
        ⟨[("user", user.toUTF8), ("x-access-key", key.toUTF8)]⟩, Body.ofBytes content.toUTF8⟩
    let after (s : Store) (request : Request) : Store :=
      ((respond settings occasion request).run s).2
    let alone := after Store.empty (sent "ann" "key" "POST" "/put/k" "x")
    let both := after alone (sent "bob" "other" "POST" "/put/k" "y")
    let request := sent "ann" "key" "DELETE" "/delete/k" ""
    authenticatedAs settings occasion request = some ann.user ∧
      both.shelf.objects.size = 2 ∧ (after both request).shelf.objects.size = 1 ∧
      Store.Spares (fun identifier => inScope "bob" identifier) both (after both request) ∧
      ((respond settings occasion request).run both).1 =
        ((respond settings occasion request).run alone).1 := by
  intro ann bob settings occasion sent after alone both request
  have authenticated : authenticatedAs settings occasion request = some ann.user := by
    decide
  have known : Config.Surroundings.isUserId ann.user.userId := by decide
  have reachedAlone : Reached settings alone := .request .start occasion _
  have reachedBoth : Reached settings both := .request reachedAlone occasion _
  have apart := tenants_apart reachedBoth authenticated known
  have puts : authenticatedAs settings occasion (sent "bob" "other" "POST" "/put/k" "y") =
      some bob.user := by
    decide
  have spared := (tenants_apart reachedAlone puts (by decide)).1 "ann" (by decide) (by decide)
  refine ⟨authenticated, by decide +kernel, by decide +kernel, ?_, ?_⟩
  · exact apart.1 "bob" (by decide) (by decide)
  · exact apart.2 alone reachedAlone spared.belongings (by decide +kernel)

end Depot.Server
