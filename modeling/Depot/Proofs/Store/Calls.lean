import Depot.Proofs.Store.Operations

/-!
# Calls and runs

The operations of the store as data: those on objects, those on uploads in
parts, and the surveys that only look.  A run is a list of calls that are made
one after another, successful or failing.
-/

namespace Depot.Store

set_option autoImplicit false

open Depot.Http
open Depot.Time

/-! ## Objects -/

/-- An operation on objects, with all that it is given. -/
inductive ObjectCall where
  | put (identifier : String) (attributes : Attributes) (body : Body) (now : Instant)
  | putPieces (identifier : String) (attributes : Attributes) (pieces : List ByteArray)
      (now : Instant)
  | update (identifier : String) (body : Body) (now : Instant)
  | append (identifier : String) (body : Body) (now : Instant)
  | rename (old new : String) (now : Instant)
  | copy (source destination : String) (attributes? : Option Attributes) (now : Instant)
  | delete (identifier : String)
  | head (identifier : String)
  | read (identifier : String)
  | list (beginning : String)

/-- What an operation on objects answers with. -/
inductive ObjectReply where
  | object (object : Object)
  | content (content : Content)
  | objects (objects : List Object)

/-- The operation of a call. -/
def ObjectCall.perform : ObjectCall → Action ObjectReply
  | .put identifier attributes body now =>
      ObjectReply.object <$> Store.put identifier attributes body now
  | .putPieces identifier attributes pieces now =>
      ObjectReply.object <$> Store.putPieces identifier attributes pieces now
  | .update identifier body now => ObjectReply.object <$> Store.update identifier body now
  | .append identifier body now => ObjectReply.object <$> Store.append identifier body now
  | .rename old new now => ObjectReply.object <$> Store.rename old new now
  | .copy source destination attributes? now =>
      ObjectReply.object <$> Store.copy source destination attributes? now
  | .delete identifier => ObjectReply.object <$> Store.delete identifier
  | .head identifier => ObjectReply.object <$> Store.head identifier
  | .read identifier => ObjectReply.content <$> Store.read identifier
  | .list beginning => ObjectReply.objects <$> Store.list beginning

/-! ## Uploads in parts -/

/-- An operation on uploads, with all that it is given. -/
inductive UploadCall where
  | start (identifier : String) (attributes : Attributes) (now : Instant)
  | uploadPart (name identifier : String) (number : Int) (body : Body) (now : Instant)
  | listParts (name identifier : String)
  | complete (name identifier : String) (requested : List RequestedPart) (now : Instant)
  | abort (name identifier : String)

/-- What an operation on uploads answers with. -/
inductive UploadReply where
  | upload (name : String) (upload : Upload)
  | part (part : Part)
  | parts (parts : List (Nat × Part))
  | object (object : Object)
  | done

/-- The operation of a call. -/
def UploadCall.perform : UploadCall → Action UploadReply
  | .start identifier attributes now =>
      (fun begun => .upload begun.1 begun.2) <$> beginUpload identifier attributes now
  | .uploadPart name identifier number body now =>
      .part <$> Store.uploadPart name identifier number body now
  | .listParts name identifier => .parts <$> Store.listParts name identifier
  | .complete name identifier requested now =>
      .object <$> Store.complete name identifier requested now
  | .abort name identifier => (fun _ => .done) <$> Store.abort name identifier

/-! ## Surveys -/

/-- An operation that only looks at the store, beside those on objects and uploads. -/
inductive Survey where
  | peek (identifier : String)
  | listPage (beginning : String) (after? : Option String) (limit : Nat)
  | anyUnder (beginning : String)
  | topLevel (beginning : String)

/-- What a survey answers with. -/
inductive SurveyReply where
  | content (content : Content)
  | objects (objects : List Object)
  | answer (found : Bool)
  | segments (segments : List (String × Instant))

/-- The operation of a survey. -/
def Survey.perform : Survey → Action SurveyReply
  | .peek identifier => SurveyReply.content <$> Store.peek identifier
  | .listPage beginning after? limit =>
      SurveyReply.objects <$> Store.listPage beginning after? limit
  | .anyUnder beginning => SurveyReply.answer <$> Store.anyUnder beginning
  | .topLevel beginning => SurveyReply.segments <$> Store.topLevel beginning

/-! ## All calls -/

/-- A call of any operation of the store. -/
inductive Call where
  | object (call : ObjectCall)
  | upload (call : UploadCall)
  | survey (look : Survey)

/-- What a call answers with. -/
inductive Reply where
  | object (reply : ObjectReply)
  | upload (reply : UploadReply)
  | survey (reply : SurveyReply)

/-- The operation of a call. -/
def Call.perform : Call → Action Reply
  | .object call => Reply.object <$> call.perform
  | .upload call => Reply.upload <$> call.perform
  | .survey look => Reply.survey <$> look.perform

def Call.after (call : Call) (s : Store) : Store := (outcome call.perform s).2

def afterAll (calls : List Call) (s : Store) : Store := calls.foldl (fun t call => call.after t) s

/-- What holds of a store and is kept by every call holds after every run from it. -/
theorem afterAll_induction {P : Store → Prop}
    (kept : ∀ (call : Call) (s : Store), P s → P (call.after s)) (calls : List Call) {s : Store}
    (start : P s) : P (afterAll calls s) := by
  induction calls generalizing s with
  | nil => exact start
  | cons call rest ih => exact ih (kept call s start)

/-! ## Outcomes of calls -/

/-- A survey leaves the store as it is. -/
theorem Survey.after_eq (survey : Survey) (s : Store) : (outcome survey.perform s).2 = s := by
  cases survey with
  | peek identifier =>
      rw [perform, outcome_map]
      exact peek_keeps identifier s
  | listPage beginning after? limit => rw [perform, outcome_map, outcome_listPage]
  | anyUnder beginning => rw [perform, outcome_map, outcome_anyUnder]
  | topLevel beginning => rw [perform, outcome_map, outcome_topLevel]

end Depot.Store
