import Depot.Proofs.Store.Reachable
import Depot.Proofs.Store.Surveys

/-!
# Runs over the table of sessions

Every operation of the store follows its shelf, so a run of calls of all kinds
is answered as by the shelf alone (`Sound.callAnswers_eq`): uploads are a table
of sessions, and the operations on objects that are made between them do not
disturb it.

The rules of that table are stated without the walk through the requested
parts: which requests a session selects, and what it joins for them
(`choose_eq_ok_iff`).  A session that has ended is spent: its name is never
given again, so no later call finds it (`Call.next_spent`).  The main result
puts both together (`uploads_are_sessions`).
-/

namespace Depot

set_option autoImplicit false

open Depot.Http
open Depot.Time

namespace Store

/-! ## All calls on the shelf -/

/-- What a survey answers from a ledger. -/
def Survey.onLedger (look : Survey) (ledger : Ledger) : Except StoreFault SurveyReply :=
  match look with
  | .peek identifier => (ledger.read identifier).map .content
  | .listPage beginning after? limit =>
      .ok (.objects ((ledger.after beginning (after?.getD "")).take limit))
  | .anyUnder beginning => .ok (.answer (!(ledger.under beginning).isEmpty))
  | .topLevel beginning => .ok (.segments (ledger.segments beginning).entries)

/-- What a call does to a shelf. -/
def Call.onShelf (call : Call) (shelf : Shelf) : Except StoreFault (Reply × Shelf) :=
  match call with
  | .object call => (onObjects call.onLedger shelf).map (Prod.map .object id)
  | .upload call => (call.onShelf shelf).map (Prod.map .upload id)
  | .survey look => (looking look.onLedger shelf).map (Prod.map .survey id)

/-- The shelf after a call; one that fails leaves it as it is. -/
def Call.next (call : Call) (shelf : Shelf) : Shelf :=
  match call.onShelf shelf with
  | .ok (_, next) => next
  | .error _ => shelf

/-- What a shelf answers to calls that are made one after another. -/
def shelfAnswers : List Call → Shelf → List (Except StoreFault Reply)
  | [], _ => []
  | call :: rest, shelf => (call.onShelf shelf).map Prod.fst :: shelfAnswers rest (call.next shelf)

/-- The answer without the numbers of blobs. -/
def SurveyReply.unnumbered : SurveyReply → SurveyReply
  | .content found => .content found.unnumbered
  | .objects found => .objects (found.map Object.unnumbered)
  | .answer found => .answer found
  | .segments found => .segments found

/-- The answer without the numbers of blobs. -/
def Reply.unnumbered : Reply → Reply
  | .object reply => .object reply.unnumbered
  | .upload reply => .upload reply.unnumbered
  | .survey reply => .survey reply.unnumbered

/-- What a store answers to calls that are made one after another, without the numbers of blobs. -/
def callAnswers : List Call → Store → List (Except StoreFault Reply)
  | [], _ => []
  | call :: rest, s =>
      (outcome call.perform s).1.map Reply.unnumbered :: callAnswers rest (call.after s)

/-! ## All calls follow the shelf -/

namespace Follows

variable {α β : Type} {theirs : String → Prop} {view : α → β} {s : Store}
  {done : Except StoreFault α × Store} {expected : Except StoreFault (β × Shelf)}

/-- As far as it is seen, the answer is the specified one. -/
theorem answer_eq (follows : Follows theirs view s done expected) :
    done.1.map view = expected.map Prod.fst := by
  cases follows with
  | answered seen _ => exact congrArg Except.ok seen
  | failed _ => rfl

/-- An outcome succeeds when it is specified to. -/
theorem ok_iff (follows : Follows theirs view s done expected) :
    (∃ a, done.1 = .ok a) ↔ ∃ b after, expected = .ok (b, after) := by
  cases follows with
  | answered _ _ => simp
  | failed _ => simp

theorem of_ok {b : β} {after : Shelf} (follows : Follows theirs view s done (.ok (b, after))) :
    ∃ a, done.1 = .ok a ∧ view a = b ∧ done.2.shelf = after := by
  cases follows with
  | answered seen becomes => exact ⟨_, rfl, seen, becomes.shelf⟩

theorem of_error {fault : StoreFault} (follows : Follows theirs view s done (.error fault)) :
    done.1 = .error fault ∧ done.2.shelf = s.shelf := by
  cases follows with
  | failed becomes => exact ⟨rfl, becomes.shelf⟩

/-- A failure leaves the shelf as it was. -/
theorem of_failed {fault : StoreFault} (follows : Follows theirs view s done expected)
    (failed : done.1 = .error fault) : done.2.shelf = s.shelf := by
  cases follows with
  | answered _ _ => cases failed
  | failed becomes => exact becomes.shelf

end Follows

/-- What a look makes of an answer it makes of what is seen of it. -/
theorem looking_map {α β : Type} (look : Ledger → Except StoreFault α) (f : α → β)
    (shelf : Shelf) :
    looking (fun ledger => (look ledger).map f) shelf =
      (looking look shelf).map (Prod.map f id) := by
  unfold looking
  dsimp only
  cases look shelf.objects <;> rfl

/-- Every survey follows the ledger. -/
theorem Survey.follows {s : Store} (sound : s.Sound) (look : Survey) :
    Follows (fun _ => False) SurveyReply.unnumbered s (outcome look.perform s)
      (looking look.onLedger s.shelf) := by
  cases look with
  | peek identifier =>
      exact looking_map _ _ _ ▸ (sound.follows_peek identifier).map fun _ => rfl
  | listPage beginning after? limit =>
      have sees (objects : List Object) : SurveyReply.unnumbered (.objects objects) =
          .objects (objects.map Object.unnumbered) := rfl
      exact (sound.follows_listPage beginning after? limit).map sees
  | anyUnder beginning =>
      have sees (found : Bool) : SurveyReply.unnumbered (.answer found) = .answer found := rfl
      exact (sound.follows_anyUnder beginning).map sees
  | topLevel beginning =>
      have sees (segments : List (String × Instant)) :
          SurveyReply.unnumbered (.segments segments) = .segments segments := rfl
      exact (sound.follows_topLevel beginning).map sees

/-- Every call follows the shelf. -/
theorem Call.follows {s : Store} (sound : s.Sound) (call : Call) :
    Follows (fun _ => False) Reply.unnumbered s (outcome call.perform s)
      (call.onShelf s.shelf) := by
  cases call with
  | object call => exact (call.follows sound).map fun _ => rfl
  | upload call => exact (call.follows sound).map fun _ => rfl
  | survey look => exact (look.follows sound).map fun _ => rfl

theorem Call.shelf_after {s : Store} (sound : s.Sound) (call : Call) :
    (call.after s).shelf = call.next s.shelf := by
  have follows := call.follows sound
  unfold Call.after Call.next
  generalize outcome call.perform s = done at follows
  cases specified : call.onShelf s.shelf with
  | error fault =>
      rw [specified] at follows
      exact follows.of_error.2
  | ok result =>
      rw [specified] at follows
      obtain ⟨_, _, _, same⟩ := follows.of_ok
      exact same

/-- In a sound store, calls of all kinds are answered as by the shelf. -/
theorem Sound.callAnswers_eq {s : Store} (sound : s.Sound) (calls : List Call) :
    callAnswers calls s = shelfAnswers calls s.shelf := by
  induction calls generalizing s with
  | nil => rfl
  | cons call rest ih =>
      unfold callAnswers shelfAnswers
      rw [(call.follows sound).answer_eq, ih (sound.after call), call.shelf_after sound]

end Store

/-! ## Which parts a completion joins -/

namespace Shelf

open Store

def empty : Shelf := ⟨Table.empty, Table.empty, firstUpload⟩

/-- The request is in strictly ascending order from above `last` on, and names each piece with the
MD5 of its latest bytes in lower-case hexadecimal. -/
structure Lists (pieces : Table Nat Piece) (last : Int) (requested : List RequestedPart) :
    Prop where
  ascending : (requested.map RequestedPart.number).Pairwise (· < ·)
  above : ∀ part, part ∈ requested → last < part.number
  known : ∀ part, part ∈ requested → ∃ piece, pieces.find? part.number.toNat = some piece ∧
    stripped part.etag = Hex.encode (Digest.Md5.digest piece.bytes)

/-- The requests that a completion accepts: one that names no part, when there is any, and one that
lists parts that are there. -/
def Selects (pieces : Table Nat Piece) (requested : List RequestedPart) : Prop :=
  if requested = [] then pieces.entries ≠ [] else Lists pieces 0 requested

/-- The pieces that an accepted request is about, in the order of their numbers. -/
def selected (pieces : Table Nat Piece) (requested : List RequestedPart) : List Piece :=
  if requested = [] then pieces.entries.map Prod.snd
  else requested.filterMap fun part => pieces.find? part.number.toNat

theorem lists_cons_iff {pieces : Table Nat Piece} {last : Int} {first : RequestedPart}
    {rest : List RequestedPart} :
    Lists pieces last (first :: rest) ↔
      last < first.number ∧
        (∃ piece, pieces.find? first.number.toNat = some piece ∧
          stripped first.etag = Hex.encode (Digest.Md5.digest piece.bytes)) ∧
        Lists pieces first.number rest := by
  constructor
  · intro lists
    obtain ⟨below, ascending⟩ := List.pairwise_cons.mp lists.ascending
    refine ⟨lists.above first List.mem_cons_self, lists.known first List.mem_cons_self, ?_⟩
    refine ⟨ascending, ?_, fun part member => lists.known part (.tail _ member)⟩
    intro part member
    exact below part.number (List.mem_map_of_mem member)
  · rintro ⟨above, known, lists⟩
    refine ⟨?_, ?_, ?_⟩
    · refine List.pairwise_cons.mpr ⟨?_, lists.ascending⟩
      intro number member
      obtain ⟨part, listed, rfl⟩ := List.mem_map.mp member
      exact lists.above part listed
    · intro part member
      rcases List.mem_cons.mp member with rfl | member
      · exact above
      · exact Int.lt_trans above (lists.above part member)
    · intro part member
      rcases List.mem_cons.mp member with rfl | member
      · exact known
      · exact lists.known part member

/-- The walk through the requested parts finds the pieces of just the requests that are in order. -/
theorem chooseFrom_eq_ok_iff {pieces : Table Nat Piece} {last : Int}
    {requested : List RequestedPart} {chosen : List Piece} :
    chooseFrom pieces last requested = .ok chosen ↔
      Lists pieces last requested ∧
        chosen = requested.filterMap fun part => pieces.find? part.number.toNat := by
  induction requested generalizing last chosen with
  | nil =>
      have lists : Lists pieces last [] := ⟨.nil, by simp, by simp⟩
      simp [chooseFrom, lists, eq_comm]
  | cons first rest ih =>
      rw [lists_cons_iff]
      unfold chooseFrom
      split
      · next early =>
          have notAbove : ¬ last < first.number := Int.not_lt.mpr early
          simp [notAbove]
      · next above =>
          cases found : pieces.find? first.number.toNat with
          | none => simp
          | some piece =>
              by_cases same : stripped first.etag = Hex.encode (Digest.Md5.digest piece.bytes)
              · have picked : ((first :: rest).filterMap fun part =>
                      pieces.find? part.number.toNat) =
                    piece :: rest.filterMap fun part => pieces.find? part.number.toNat :=
                  List.filterMap_cons_some found
                simp only [if_pos same, Results.map_eq_ok_iff, ih, picked]
                constructor
                · rintro ⟨others, ⟨lists, rfl⟩, rfl⟩
                  exact ⟨⟨Int.not_le.mp above, ⟨piece, rfl, same⟩, lists⟩, rfl⟩
                · rintro ⟨⟨-, -, lists⟩, rfl⟩
                  exact ⟨_, ⟨lists, rfl⟩, rfl⟩
              · simp [same]

/-- **A completion joins the pieces of just the requests that its session accepts.** -/
theorem choose_eq_ok_iff {pieces : Table Nat Piece} {requested : List RequestedPart}
    {chosen : List Piece} :
    choose pieces requested = .ok chosen ↔
      Selects pieces requested ∧ chosen = selected pieces requested := by
  unfold choose Selects selected
  cases requested with
  | nil =>
      cases entries : pieces.entries with
      | nil => simp
      | cons e rest => simp [eq_comm]
  | cons first rest => simpa using chooseFrom_eq_ok_iff

/-! ## What the operations on uploads do to the sessions -/

theorem sessionFor_eq_ok_iff {shelf : Shelf} {name identifier : String} {session : Session} :
    shelf.sessionFor name identifier = .ok session ↔
      shelf.sessions.find? name = some session ∧ session.identifier = identifier := by
  unfold sessionFor
  cases shelf.sessions.find? name with
  | none => simp
  | some known =>
      by_cases same : known.identifier = identifier
      · simp only [if_pos same, Except.ok.injEq, Option.some.injEq]
        exact ⟨fun h => ⟨h, h ▸ same⟩, And.left⟩
      · simp only [if_neg same, Option.some.injEq, reduceCtorEq, false_iff]
        rintro ⟨rfl, there⟩
        exact same there

/-- The look-up of a session fails in one way only. -/
theorem sessionFor_lost {shelf : Shelf} {name identifier : String}
    (lost : ∀ session, shelf.sessions.find? name = some session → session.identifier ≠ identifier) :
    shelf.sessionFor name identifier = .error (.noSuchUpload name) := by
  unfold sessionFor
  cases found : shelf.sessions.find? name with
  | none => rfl
  | some session => exact if_neg (lost session found)

/-- The bytes of the pieces that an accepted request is about, one after another. -/
def joined (pieces : Table Nat Piece) (requested : List RequestedPart) : ByteArray :=
  ((selected pieces requested).map Piece.bytes).foldl (· ++ ·) ByteArray.empty

/-- **A completion succeeds just for the requests that its session accepts**, and sets the object of
the session to the bytes that these select. -/
theorem complete_eq_ok_iff {shelf after : Shelf} {name identifier : String}
    {requested : List RequestedPart} {now : Instant} {object : Object} :
    shelf.complete name identifier requested now = .ok (object, after) ↔
      ∃ session, (shelf.sessions.find? name = some session ∧ session.identifier = identifier) ∧
        Selects session.pieces requested ∧
        object = Record.object ⟨joined session.pieces requested, session.attributes, now⟩
          identifier ∧
        after =
          { shelf with
            objects := shelf.objects.insert identifier
              ⟨joined session.pieces requested, session.attributes, now⟩
            sessions := shelf.sessions.erase name } := by
  simp only [← sessionFor_eq_ok_iff, complete]
  cases shelf.sessionFor name identifier with
  | error fault => simp [bind, Except.bind]
  | ok session =>
      cases chose : choose session.pieces requested with
      | error fault =>
          have refused : ¬ Selects session.pieces requested := by
            intro selects
            cases chose.symm.trans (choose_eq_ok_iff.mpr ⟨selects, rfl⟩)
          simp [chose, refused, bind, Except.bind]
      | ok chosen =>
          obtain ⟨selects, rfl⟩ := choose_eq_ok_iff.mp chose
          simp [chose, selects, joined, Ledger.enter, bind, Except.bind, pure, Except.pure,
            eq_comm]

/-- An upload is begun for just the valid identifiers, under the next name. -/
theorem start_eq_ok_iff {shelf after : Shelf} {identifier : String} {attributes : Attributes}
    {now : Instant} {begun : String × Upload} :
    shelf.start identifier attributes now = .ok (begun, after) ↔
      Name.Storable identifier ∧
        begun = (uploadName shelf.nextUpload, ⟨identifier, attributes, now, Table.empty⟩) ∧
        after =
          { shelf with
            sessions :=
              shelf.sessions.insert (uploadName shelf.nextUpload)
                ⟨identifier, attributes, now, Table.empty⟩
            nextUpload := shelf.nextUpload + 1 } := by
  unfold start
  rw [Results.bind_eq_ok_iff, ← Ledger.checked_eq_ok_iff]
  cases Ledger.checked identifier with
  | error fault => simp
  | ok _ => simp [pure, Except.pure, eq_comm]

/-- A part is taken for just the sessions that are there, under the numbers that a part can have. -/
theorem uploadPart_eq_ok_iff {shelf after : Shelf} {name identifier : String} {number : Int}
    {body : Body} {now : Instant} {part : Part} :
    shelf.uploadPart name identifier number body now = .ok (part, after) ↔
      ∃ session, (shelf.sessions.find? name = some session ∧ session.identifier = identifier) ∧
        (1 ≤ number ∧ number ≤ maxPartNumber) ∧
        ∃ bytes, Ledger.whole body = .ok bytes ∧ part = Piece.part ⟨bytes, now⟩ ∧
          after =
            { shelf with
              sessions :=
                shelf.sessions.insert name
                  { session with pieces := session.pieces.insert number.toNat ⟨bytes, now⟩ } } := by
  by_cases outside : number < 1 ∨ (maxPartNumber : Int) < number
  · have refused : ¬ (1 ≤ number ∧ number ≤ maxPartNumber) := by omega
    simp [uploadPart, outside, refused, bind, Except.bind]
  · have inRange : 1 ≤ number ∧ number ≤ maxPartNumber := by omega
    simp only [← sessionFor_eq_ok_iff, inRange, uploadPart, if_neg outside]
    cases shelf.sessionFor name identifier with
    | error fault => simp [bind, Except.bind]
    | ok session =>
        cases Ledger.whole body with
        | error fault => simp [bind, Except.bind]
        | ok bytes => simp [bind, Except.bind, pure, Except.pure, eq_comm]

/-- Just the sessions that are there can be given up. -/
theorem abort_eq_ok_iff {shelf after : Shelf} {name identifier : String} :
    shelf.abort name identifier = .ok ((), after) ↔
      (∃ session, shelf.sessions.find? name = some session ∧ session.identifier = identifier) ∧
        after = { shelf with sessions := shelf.sessions.erase name } := by
  simp only [← sessionFor_eq_ok_iff, abort]
  cases shelf.sessionFor name identifier with
  | error fault => simp [bind, Except.bind]
  | ok session => simp [bind, Except.bind, pure, Except.pure, eq_comm]

end Shelf

namespace Store

/-! ## Sessions that are over -/

/-- The upload and the identifier that a call names. -/
def UploadCall.target? : UploadCall → Option (String × String)
  | .start _ _ _ => none
  | .uploadPart name identifier _ _ _ => some (name, identifier)
  | .listParts name identifier => some (name, identifier)
  | .complete name identifier _ _ => some (name, identifier)
  | .abort name identifier => some (name, identifier)

/-- Whether a call brings a part with a number that no part can have. -/
def UploadCall.isMisnumbered : UploadCall → Bool
  | .uploadPart _ _ number _ _ => number < 1 ∨ (maxPartNumber : Int) < number
  | _ => false

/-- A call that names no session of its identifier fails. -/
theorem UploadCall.onShelf_lost {call : UploadCall} {name identifier : String}
    (target : call.target? = some (name, identifier)) {shelf : Shelf}
    (lost : ∀ session, shelf.sessions.find? name = some session →
      session.identifier ≠ identifier) :
    call.onShelf shelf =
      .error (if call.isMisnumbered then partNumberFault else .noSuchUpload name) := by
  have missing := Shelf.sessionFor_lost lost
  cases call with
  | start _ _ _ => cases target
  | uploadPart name' identifier' number body now =>
      cases target
      by_cases range : number < 1 ∨ (maxPartNumber : Int) < number
      · simp only [onShelf, Shelf.uploadPart, isMisnumbered, if_pos range, decide_eq_true range]
        rfl
      · simp only [onShelf, Shelf.uploadPart, isMisnumbered, if_neg range,
          decide_eq_false range, missing]
        rfl
  | listParts name' identifier' =>
      cases target
      simp only [onShelf, Shelf.listParts, missing]
      rfl
  | complete name' identifier' requested now =>
      cases target
      simp only [onShelf, Shelf.complete, missing]
      rfl
  | abort name' identifier' =>
      cases target
      simp only [onShelf, Shelf.abort, missing]
      rfl

/-- A name without a session gets one only when it is the next to be given. -/
theorem UploadCall.sessions_absent {call : UploadCall} {shelf after : Shelf} {reply : UploadReply}
    (done : call.onShelf shelf = .ok (reply, after)) :
    shelf.nextUpload ≤ after.nextUpload ∧
      ∀ name, shelf.sessions.find? name = none → name ≠ uploadName shelf.nextUpload →
        after.sessions.find? name = none := by
  -- A call on a session that is there changes no other one.
  have other {name name' : String} {session : Session}
      (absent : shelf.sessions.find? name = none)
      (there : shelf.sessions.find? name' = some session) : name ≠ name' := by
    rintro rfl
    cases absent.symm.trans there
  cases call with
  | start identifier attributes now =>
      obtain ⟨⟨begun, after'⟩, started, same⟩ := Results.map_eq_ok_iff.mp done
      cases same
      obtain ⟨-, -, rfl⟩ := Shelf.start_eq_ok_iff.mp started
      refine ⟨Nat.le_succ _, fun name absent differs => ?_⟩
      exact (Table.find?_insert_of_ne _ _ differs).trans absent
  | uploadPart name' identifier number body now =>
      obtain ⟨⟨part, after'⟩, supplied, same⟩ := Results.map_eq_ok_iff.mp done
      cases same
      obtain ⟨session, there, -, bytes, -, -, rfl⟩ := Shelf.uploadPart_eq_ok_iff.mp supplied
      refine ⟨Nat.le_refl _, fun name absent _ => ?_⟩
      exact (Table.find?_insert_of_ne _ _ (other absent there.1)).trans absent
  | listParts name' identifier =>
      obtain ⟨parts, _, same⟩ := Results.map_eq_ok_iff.mp done
      cases same
      exact ⟨Nat.le_refl _, fun _ absent _ => absent⟩
  | complete name' identifier requested now =>
      obtain ⟨⟨object, after'⟩, completed, same⟩ := Results.map_eq_ok_iff.mp done
      cases same
      obtain ⟨session, there, -, -, rfl⟩ := Shelf.complete_eq_ok_iff.mp completed
      refine ⟨Nat.le_refl _, fun name absent _ => ?_⟩
      exact (Table.find?_erase_of_ne _ (other absent there.1)).trans absent
  | abort name' identifier =>
      obtain ⟨⟨_, after'⟩, aborted, same⟩ := Results.map_eq_ok_iff.mp done
      cases same
      obtain ⟨⟨session, there⟩, rfl⟩ := Shelf.abort_eq_ok_iff.mp aborted
      refine ⟨Nat.le_refl _, fun name absent _ => ?_⟩
      exact (Table.find?_erase_of_ne _ (other absent there.1)).trans absent

/-- The upload that a call ends when it succeeds. -/
def UploadCall.ends? : UploadCall → Option String
  | .complete name _ _ _ => some name
  | .abort name _ => some name
  | _ => none

/-- A call that ends an upload finds its session and leaves none under its name. -/
theorem UploadCall.onShelf_ends {call : UploadCall} {name : String}
    (ends : call.ends? = some name) {shelf after : Shelf} {reply : UploadReply}
    (done : call.onShelf shelf = .ok (reply, after)) :
    (∃ session, shelf.sessions.find? name = some session) ∧
      after.nextUpload = shelf.nextUpload ∧ after.sessions.find? name = none := by
  cases call with
  | start _ _ _ => cases ends
  | uploadPart _ _ _ _ _ => cases ends
  | listParts _ _ => cases ends
  | complete _ identifier requested now =>
      cases ends
      obtain ⟨⟨object, after'⟩, completed, same⟩ := Results.map_eq_ok_iff.mp done
      cases same
      obtain ⟨session, there, -, -, rfl⟩ := Shelf.complete_eq_ok_iff.mp completed
      exact ⟨⟨session, there.1⟩, rfl, Table.find?_erase_self _ _⟩
  | abort _ identifier =>
      cases ends
      obtain ⟨⟨_, after'⟩, aborted, same⟩ := Results.map_eq_ok_iff.mp done
      cases same
      obtain ⟨⟨session, there⟩, rfl⟩ := Shelf.abort_eq_ok_iff.mp aborted
      exact ⟨⟨session, there.1⟩, rfl, Table.find?_erase_self _ _⟩

/-- A name that was given to an upload, and has no session any more. -/
structure Spent (shelf : Shelf) (name : String) : Prop where
  given : ∃ n, n < shelf.nextUpload ∧ name = uploadName n
  gone : shelf.sessions.find? name = none

/-- No call revives an upload that is over: new ones get other names. -/
theorem Call.next_spent {shelf : Shelf} {name : String} (spent : Spent shelf name) (call : Call) :
    Spent (call.next shelf) name := by
  obtain ⟨n, passed, rfl⟩ := spent.given
  unfold Call.next
  cases done : call.onShelf shelf with
  | error fault => exact spent
  | ok result =>
      obtain ⟨reply, after⟩ := result
      cases call with
      | object call =>
          obtain ⟨⟨_, after'⟩, changed, same⟩ := Results.map_eq_ok_iff.mp done
          cases same
          obtain ⟨_, _, same⟩ := Results.map_eq_ok_iff.mp changed
          cases same
          exact ⟨spent.given, spent.gone⟩
      | upload call =>
          obtain ⟨⟨_, after'⟩, changed, same⟩ := Results.map_eq_ok_iff.mp done
          cases same
          obtain ⟨onward, absent⟩ := call.sessions_absent changed
          refine ⟨⟨n, Nat.lt_of_lt_of_le passed onward, rfl⟩, absent _ spent.gone ?_⟩
          intro same
          exact absurd (uploadName_inj same) (Nat.ne_of_lt passed)
      | survey look =>
          obtain ⟨⟨_, after'⟩, looked, same⟩ := Results.map_eq_ok_iff.mp done
          cases same
          obtain ⟨_, _, same⟩ := Results.map_eq_ok_iff.mp looked
          cases same
          exact spent

/-- A successful call that ends an upload leaves its name spent. -/
theorem Sound.spent_after {s : Store} (sound : s.Sound) {call : UploadCall} {name : String}
    (ends : call.ends? = some name) {reply : UploadReply}
    (done : (outcome call.perform s).1 = .ok reply) :
    Spent (Call.after (.upload call) s).shelf name := by
  obtain ⟨view, after, expected⟩ := (call.follows sound).ok_iff.mp ⟨reply, done⟩
  obtain ⟨⟨session, there⟩, next, gone⟩ := call.onShelf_ends ends expected
  have shelf : (Call.after (.upload call) s).shelf = after := by
    rw [Call.shelf_after sound, Call.next, Call.onShelf, expected]
    rfl
  rw [find?_shelf_sessions] at there
  obtain ⟨upload, found, -⟩ := Option.map_eq_some_iff.mp there
  obtain ⟨n, passed, named⟩ := (sound.uploads name upload found).named
  exact ⟨⟨n, by rw [shelf, next]; exact passed, named⟩, by rw [shelf]; exact gone⟩

/-- An upload that is over stays over, whatever is called. -/
theorem Sound.spent_afterAll {s : Store} (sound : s.Sound) {name : String}
    (spent : Spent s.shelf name) (calls : List Call) : Spent (afterAll calls s).shelf name := by
  have kept (call : Call) (t : Store) (both : t.Sound ∧ Spent t.shelf name) :
      (call.after t).Sound ∧ Spent (call.after t).shelf name :=
    ⟨both.1.after call, call.shelf_after both.1 ▸ call.next_spent both.2⟩
  exact (afterAll_induction kept calls ⟨sound, spent⟩).2

/-! ## Uploads as sessions -/

/-- What the operations on uploads do in a store, by the sessions on its shelf. -/
structure UploadsAreSessions (s : Store) : Prop where
  /-- A call that names no session of its identifier fails and changes nothing. -/
  lost : ∀ (call : UploadCall) (name identifier : String),
    call.target? = some (name, identifier) →
    (∀ session, s.shelf.sessions.find? name = some session → session.identifier ≠ identifier) →
      (outcome call.perform s).1 =
          .error (if call.isMisnumbered then partNumberFault else .noSuchUpload name) ∧
        (outcome call.perform s).2.shelf = s.shelf
  /-- A new upload has a name without a session and gets one without pieces. -/
  begins : ∀ (identifier : String) (attributes : Attributes) (now : Instant),
    Name.Storable identifier →
      let name := uploadName s.nextUpload
      s.shelf.sessions.find? name = none ∧
        (outcome (beginUpload identifier attributes now) s).1 =
          .ok (name, ⟨identifier, attributes, now, Table.empty⟩) ∧
        (outcome (beginUpload identifier attributes now) s).2.shelf =
          { s.shelf with
            sessions :=
              s.shelf.sessions.insert name ⟨identifier, attributes, now, Table.empty⟩
            nextUpload := s.nextUpload + 1 }
  /-- A part sets the piece of its number, and no other one. -/
  supplies : ∀ (name : String) (session : Session) (number : Int) (body : Body)
    (bytes : ByteArray) (now : Instant),
    s.shelf.sessions.find? name = some session → 1 ≤ number ∧ number ≤ maxPartNumber →
    Ledger.whole body = .ok bytes →
      (outcome (uploadPart name session.identifier number body now) s).1.map Part.unnumbered =
          .ok (Piece.part ⟨bytes, now⟩) ∧
        (outcome (uploadPart name session.identifier number body now) s).2.shelf =
          { s.shelf with
            sessions :=
              s.shelf.sessions.insert name
                { session with pieces := session.pieces.insert number.toNat ⟨bytes, now⟩ } }
  /-- The parts are listed in ascending order of their numbers. -/
  lists : ∀ (name : String) (session : Session),
    s.shelf.sessions.find? name = some session →
      ∃ parts, (outcome (listParts name session.identifier) s).1 = .ok parts ∧
        (parts.map Prod.fst).Pairwise (· < ·) ∧
        parts.map (Prod.map id Part.unnumbered) =
          session.pieces.entries.map (Prod.map id Piece.part)
  /-- A completion succeeds just for the requests that its session accepts. -/
  completes : ∀ (name : String) (session : Session) (requested : List RequestedPart)
    (now : Instant), s.shelf.sessions.find? name = some session →
      ((∃ object, (outcome (complete name session.identifier requested now) s).1 = .ok object) ↔
        Shelf.Selects session.pieces requested)
  /-- A completion sets the object of the session to what the request selects, with the attributes
  of the session. -/
  completed : ∀ (name : String) (session : Session) (requested : List RequestedPart)
    (now : Instant), s.shelf.sessions.find? name = some session →
    Shelf.Selects session.pieces requested →
      let record : Record := ⟨Shelf.joined session.pieces requested, session.attributes, now⟩
      (outcome (complete name session.identifier requested now) s).1.map Object.unnumbered =
          .ok (record.object session.identifier) ∧
        (outcome (complete name session.identifier requested now) s).2.shelf =
          { s.shelf with
            objects := s.shelf.objects.insert session.identifier record
            sessions := s.shelf.sessions.erase name }
  /-- An upload that is given up leaves no session. -/
  aborts : ∀ (name : String) (session : Session),
    s.shelf.sessions.find? name = some session →
      (outcome (abort name session.identifier) s).1 = .ok () ∧
        (outcome (abort name session.identifier) s).2.shelf =
          { s.shelf with sessions := s.shelf.sessions.erase name }
  /-- A call that fails leaves the shelf as it is. -/
  fails : ∀ (call : UploadCall) (fault : StoreFault),
    (outcome call.perform s).1 = .error fault → (outcome call.perform s).2.shelf = s.shelf

/-- In a sound store, uploads are sessions. -/
theorem Sound.uploadsAreSessions {s : Store} (sound : s.Sound) : s.UploadsAreSessions where
  lost call name identifier target missing := by
    have follows := call.follows sound
    rw [call.onShelf_lost target missing] at follows
    exact follows.of_error
  begins identifier attributes now valid := by
    have absent : s.uploads.find? (uploadName s.nextUpload) = none := by
      cases found : s.uploads.find? (uploadName s.nextUpload) with
      | none => rfl
      | some upload =>
          obtain ⟨n, passed, same⟩ := (sound.uploads _ upload found).named
          exact absurd (uploadName_inj same) (Nat.ne_of_gt passed)
    have follows : Follows (fun _ => False) id s
        (outcome (beginUpload identifier attributes now) s)
        (s.shelf.start identifier attributes now) :=
      sound.follows_beginUpload not_false attributes now
    rw [Shelf.start_eq_ok_iff.mpr ⟨valid, rfl, rfl⟩] at follows
    obtain ⟨_, answered, rfl, becomes⟩ := follows.of_ok
    refine ⟨?_, answered, becomes⟩
    rw [find?_shelf_sessions, absent]
    rfl
  supplies name session number body bytes now found range read := by
    have follows : Follows (fun _ => False) Part.unnumbered s
        (outcome (uploadPart name session.identifier number body now) s)
        (s.shelf.uploadPart name session.identifier number body now) :=
      sound.follows_uploadPart name not_false number body now
    rw [Shelf.uploadPart_eq_ok_iff.mpr
      ⟨session, ⟨found, rfl⟩, range, bytes, read, rfl, rfl⟩] at follows
    obtain ⟨_, answered, seen, becomes⟩ := follows.of_ok
    exact ⟨by rw [answered, ← seen]; rfl, becomes⟩
  lists name session found := by
    have follows : Follows (fun _ => False) (List.map fun e => (e.1, e.2.unnumbered)) s
        (outcome (listParts name session.identifier) s)
        ((s.shelf.listParts name session.identifier).map fun parts => (parts, s.shelf)) :=
      sound.follows_listParts name session.identifier
    rw [Shelf.listParts, Shelf.sessionFor_eq_ok_iff.mpr ⟨found, rfl⟩] at follows
    obtain ⟨parts, answered, seen, -⟩ := follows.of_ok
    refine ⟨parts, answered, ?_, seen⟩
    have numbers : parts.map Prod.fst = session.pieces.keys := by
      have firsts := congrArg (List.map Prod.fst) seen
      simpa [List.map_map, Function.comp_def, Table.keys] using firsts
    rw [numbers]
    exact List.pairwise_map.mpr session.pieces.sorted
  completes name session requested now found := by
    have follows : Follows (fun _ => False) Object.unnumbered s
        (outcome (complete name session.identifier requested now) s)
        (s.shelf.complete name session.identifier requested now) :=
      sound.follows_complete name not_false requested now
    rw [follows.ok_iff]
    constructor
    · rintro ⟨object, after, done⟩
      obtain ⟨other, there, selects, -⟩ := Shelf.complete_eq_ok_iff.mp done
      obtain rfl := Option.some.inj (found.symm.trans there.1)
      exact selects
    · intro selects
      exact ⟨_, _, Shelf.complete_eq_ok_iff.mpr ⟨session, ⟨found, rfl⟩, selects, rfl, rfl⟩⟩
  completed name session requested now found selects := by
    have follows : Follows (fun _ => False) Object.unnumbered s
        (outcome (complete name session.identifier requested now) s)
        (s.shelf.complete name session.identifier requested now) :=
      sound.follows_complete name not_false requested now
    rw [Shelf.complete_eq_ok_iff.mpr ⟨session, ⟨found, rfl⟩, selects, rfl, rfl⟩] at follows
    obtain ⟨_, answered, seen, becomes⟩ := follows.of_ok
    exact ⟨by rw [answered, ← seen]; rfl, becomes⟩
  aborts name session found := by
    have follows : Follows (fun _ => False) id s (outcome (abort name session.identifier) s)
        (s.shelf.abort name session.identifier) :=
      sound.follows_abort name not_false
    rw [Shelf.abort_eq_ok_iff.mpr ⟨⟨session, found, rfl⟩, rfl⟩] at follows
    obtain ⟨_, answered, -, becomes⟩ := follows.of_ok
    exact ⟨answered, becomes⟩
  fails call fault failed := (call.follows sound).of_failed failed

/-- **Whatever calls are made on an empty store, uploads are a table of sessions.**  All calls are
answered as by the shelf, on which each upload is a session of its own.  A call on an upload does
what is said of its session, and one that names no session of its identifier fails.  When a
completion or an abortion has succeeded, no session has the name of its upload any more, however
the run goes on. -/
theorem uploads_are_sessions (calls : List Call) :
    callAnswers calls Store.empty = shelfAnswers calls Shelf.empty ∧
      (afterAll calls Store.empty).UploadsAreSessions ∧
      ∀ (before after : List Call) (call : UploadCall) (name : String) (reply : UploadReply),
        calls = before ++ .upload call :: after → call.ends? = some name →
        (outcome call.perform (afterAll before Store.empty)).1 = .ok reply →
          (afterAll calls Store.empty).shelf.sessions.find? name = none := by
  refine ⟨sound_empty.callAnswers_eq calls, (afterAll_sound calls).uploadsAreSessions, ?_⟩
  rintro before after call name reply rfl ends done
  have sound := afterAll_sound before
  have spent := (sound.after (.upload call)).spent_afterAll (sound.spent_after ends done) after
  have split : afterAll (before ++ .upload call :: after) Store.empty =
      afterAll after (Call.after (.upload call) (afterAll before Store.empty)) := by
    simp [afterAll]
  rw [split]
  exact spent.gone

/-- A part with a number that none can have is refused as such, also when it is for an upload that
was never begun. -/
theorem misnumbered_part_of_no_upload :
    ¬ ∀ (call : UploadCall) (name identifier : String), call.target? = some (name, identifier) →
      (∀ session, Store.empty.shelf.sessions.find? name = some session →
        session.identifier ≠ identifier) →
      (outcome call.perform Store.empty).1 = .error (.noSuchUpload name) := by
  intro every
  have refused := every (.uploadPart "x" "k" 0 [] ⟨0, 0⟩) "x" "k" rfl fun _ found => nomatch found
  cases refused

end Store

end Depot
