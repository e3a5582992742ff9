import Depot.Proofs.Store.Following
import Depot.Proofs.Store.Undoing

/-!
# What a body leaves in the store

An operation that writes a body refuses one that fails, and then keeps all that
is stored (`put_refuses` and its siblings).  With a body that comes to its end,
every new blob has the bytes of that body, or the bytes of an object followed by
them, and the row that was written holds that blob.

The names of new blobs are taken to be new: no row holds a blob that is numbered
like the next one.
-/

namespace Depot

set_option autoImplicit false

open Depot.Http
open Depot.Time

/-! ## Refusals -/

/-- Whatever the store holds, an operation fails, for a reason that is expected, and keeps it. -/
def Refuses {ε α : Type} (expected : ε → Prop) (action : ExceptT ε (StateM Store) α) : Prop :=
  ∀ s, ∃ fault t, outcome action s = (.error fault, t) ∧ expected fault ∧ Store.SameContents s t

namespace Refuses

variable {ε ε' α β : Type} {expected : ε → Prop} {action : ExceptT ε (StateM Store) α}

theorem throw {fault : ε} (known : expected fault) :
    Refuses expected (throw fault : ExceptT ε (StateM Store) α) :=
  fun s => ⟨fault, s, rfl, known, .refl s⟩

theorem bind (refuses : Refuses expected action) (next : α → ExceptT ε (StateM Store) β) :
    Refuses expected (action >>= next) := by
  intro s
  obtain ⟨fault, t, fails, known, same⟩ := refuses s
  refine ⟨fault, t, ?_, known, same⟩
  rw [outcome_bind, fails]

/-- What can be found without the store comes first. -/
theorem lift_bind {result : Except ε β} {next : β → ExceptT ε (StateM Store) α}
    (here : ∀ fault, result = .error fault → expected fault)
    (there : ∀ b, result = .ok b → Refuses expected (next b)) :
    Refuses expected (liftM result >>= next) := by
  cases result with
  | error fault => exact throw (here fault rfl)
  | ok b => exact there b rfl

theorem adapt {expected' : ε' → Prop} {render : ε → ε'} (refuses : Refuses expected action)
    (renders : ∀ fault, expected fault → expected' (render fault)) :
    Refuses expected' (ExceptT.adapt render action) := by
  intro s
  obtain ⟨fault, t, fails, known, same⟩ := refuses s
  refine ⟨render fault, t, ?_, renders fault known, same⟩
  rw [outcome_adapt, fails]
  rfl

theorem mono {wider : ε → Prop} (refuses : Refuses expected action)
    (widens : ∀ fault, expected fault → wider fault) : Refuses wider action := by
  intro s
  obtain ⟨fault, t, fails, known, same⟩ := refuses s
  exact ⟨fault, t, fails, widens fault known, same⟩

end Refuses

namespace Store

/-! ## Bodies that fail -/

section

variable {body : Body} {bodyFault : BodyFault} (failing : body.contents = .error bodyFault)

include failing

/-- The fault of a valid identifier and a body that fails is that of the body. -/
theorem put_refuses_body {identifier : String} (valid : Name.checkIdentifier identifier = .ok ())
    (attributes : Attributes) (now : Instant) :
    Refuses (· = .body bodyFault) (put identifier attributes body now) := by
  intro s
  rw [outcome_put, valid, failing]
  exact ⟨_, _, rfl, rfl, .placed s⟩

theorem put_refuses (identifier : String) (attributes : Attributes) (now : Instant) :
    Refuses (fun _ => True) (put identifier attributes body now) := by
  cases valid : Name.checkIdentifier identifier with
  | ok _ => exact (put_refuses_body failing valid attributes now).mono fun _ _ => trivial
  | error _ =>
      intro s
      rw [outcome_put, valid]
      exact ⟨_, _, rfl, trivial, .refl s⟩

theorem update_refuses (identifier : String) (now : Instant) :
    Refuses (fun _ => True) (update identifier body now) := by
  intro s
  rw [outcome_update, failing]
  cases Name.checkIdentifier identifier with
  | error _ => exact ⟨_, _, rfl, trivial, .refl s⟩
  | ok _ => exact ⟨_, _, rfl, trivial, .placed s⟩

theorem append_refuses (identifier : String) (now : Instant) :
    Refuses (fun _ => True) (append identifier body now) := by
  intro s
  rw [outcome_append, failing]
  cases Name.checkIdentifier identifier with
  | error _ => exact ⟨_, _, rfl, trivial, .refl s⟩
  | ok _ => exact ⟨_, _, rfl, trivial, .placed s⟩

theorem uploadPart_refuses (name identifier : String) (number : Int) (now : Instant) :
    Refuses (fun _ => True) (uploadPart name identifier number body now) := by
  intro s
  rw [outcome_uploadPart, failing]
  split
  · exact ⟨_, _, rfl, trivial, .refl s⟩
  · cases s.uploadFor name identifier with
    | error _ => exact ⟨_, _, rfl, trivial, .refl s⟩
    | ok _ => exact ⟨_, _, rfl, trivial, .placed s⟩

end

/-! ## New blobs -/

def contentOf (s : Store) (holder : Holder) : Option ByteArray :=
  (s.holding holder).bind fun h => s.blobs.find? h.blob

/-- No row holds the blob that will be written next. -/
def Given (s : Store) : Prop := ∀ holder h, s.holding holder = some h → h.blob < s.nextBlob

/-- Rows that hold blobs which are there do not hold the next one. -/
theorem Sound.given {s : Store} (sound : s.Sound) : s.Given :=
  fun _ _ holds => sound.tidy.blob_lt holds

/-- Every blob of the second store is one of the first or has new bytes. -/
def Gains (new : ByteArray → Prop) (s t : Store) : Prop :=
  ∀ blob bytes, t.blobs.find? blob = some bytes → s.blobs.find? blob = some bytes ∨ new bytes

namespace Gains

variable {new : ByteArray → Prop} {s t : Store}

theorem refl (s : Store) : Gains new s s := fun _ _ found => .inl found

theorem mono {wider : ByteArray → Prop} (gains : Gains new s t)
    (widens : ∀ bytes, new bytes → wider bytes) : Gains wider s t :=
  fun blob bytes found => (gains blob bytes found).imp_right (widens bytes)

theorem of_sameContents (same : SameContents s t) : Gains new s t := by
  intro blob bytes found
  rw [same.blobs] at found
  exact .inl found

theorem kept (gains : Gains new s t) {bytes : ByteArray} (isNew : new bytes) :
    Gains new s (t.kept bytes) := by
  intro blob bytes' found
  rw [Store.kept, Table.find?_insert] at found
  split at found
  · cases found
    exact .inr isNew
  · exact gains blob bytes' found

theorem pointing (gains : Gains new s t) (identifier : String) (row : Row) :
    Gains new s (t.pointing identifier row) := gains

theorem without (gains : Gains new s t) (blob : Nat) : Gains new s (t.without blob) := by
  intro blob' bytes found
  rw [Store.without, Table.find?_erase] at found
  split at found
  · cases found
  · exact gains blob' bytes found

theorem withoutAll (gains : Gains new s t) (blobs : List Nat) :
    Gains new s (t.withoutAll blobs) := by
  intro blob' bytes found
  rw [withoutAll_eq, Table.find?_eraseAll] at found
  split at found
  · cases found
  · exact gains blob' bytes found

end Gains

end Store

/-! ## Writing -/

/-- What an operation does with a body: its faults are errors, every new blob is made from the bytes
of the body, and when it succeeds it has stored these bytes where it should. -/
structure Writes {ε α : Type} (body : Body) (isError : ε → Prop)
    (made : ByteArray → Store → ByteArray → Prop) (stored : ByteArray → Store → Store → Prop)
    (action : ExceptT ε (StateM Store) α) : Prop where
  fails : ∀ {s t : Store} {fault : ε}, outcome action s = (.error fault, t) → isError fault
  gains : ∀ {s : Store}, s.Given →
    Store.Gains (fun new => ∃ bytes, body.contents = .ok bytes ∧ made bytes s new) s
      (outcome action s).2
  stores : ∀ {s t : Store} {a : α}, s.Given → outcome action s = (.ok a, t) →
    ∃ bytes, body.contents = .ok bytes ∧ stored bytes s t

namespace Writes

variable {ε ε' α β : Type} {body : Body} {isError : ε → Prop}
  {made : ByteArray → Store → ByteArray → Prop} {stored : ByteArray → Store → Store → Prop}
  {action : ExceptT ε (StateM Store) α}

theorem throw {fault : ε} (known : isError fault) :
    Writes body isError made stored (throw fault : ExceptT ε (StateM Store) α) where
  fails ended := by
    cases ended
    exact known
  gains _ := .refl _
  stores _ ended := by cases ended

/-- What can be found without the store comes first. -/
theorem lift_bind {result : Except ε β} {next : β → ExceptT ε (StateM Store) α}
    (here : ∀ fault, result = .error fault → isError fault)
    (there : ∀ b, result = .ok b → Writes body isError made stored (next b)) :
    Writes body isError made stored (liftM result >>= next) := by
  cases result with
  | error fault => exact throw (here fault rfl)
  | ok b => exact there b rfl

theorem mono {made' : ByteArray → Store → ByteArray → Prop}
    {stored' : ByteArray → Store → Store → Prop} (writes : Writes body isError made stored action)
    (makes : ∀ bytes s new, made bytes s new → made' bytes s new)
    (keeps : ∀ bytes s t, stored bytes s t → stored' bytes s t) :
    Writes body isError made' stored' action where
  fails := writes.fails
  gains {s} given := by
    refine (writes.gains given).mono ?_
    rintro new ⟨bytes, whole, isMade⟩
    exact ⟨bytes, whole, makes bytes s new isMade⟩
  stores given done := by
    obtain ⟨bytes, whole, kept⟩ := writes.stores given done
    exact ⟨bytes, whole, keeps bytes _ _ kept⟩

/-- The answer of an operation is only shown, and so is its fault. -/
theorem shown {isError' : ε' → Prop} (writes : Writes body isError made stored action)
    {render : ε → ε'} (renders : ∀ fault, isError' (render fault)) (answer : α → β) :
    Writes body isError' made stored (do return answer (← ExceptT.adapt render action)) := by
  have ended (s : Store) :
      outcome (do return answer (← ExceptT.adapt render action)) s =
        (((outcome action s).1.mapError render).map answer, (outcome action s).2) := by
    rw [bind_pure_comp, outcome_map, outcome_adapt]
  refine ⟨?_, ?_, ?_⟩
  · intro s t fault failed
    rw [ended] at failed
    cases acted : outcome action s with
    | mk result u =>
        rw [acted] at failed
        cases result with
        | error known =>
            cases failed
            exact renders known
        | ok a => cases failed
  · intro s given
    rw [ended]
    exact writes.gains given
  · intro s t a given done
    rw [ended] at done
    cases acted : outcome action s with
    | mk result u =>
        rw [acted] at done
        cases result with
        | error known => cases done
        | ok a =>
            cases done
            exact writes.stores given acted

end Writes

namespace Store

/-! ## Bodies that come to their end -/

section

variable {s t : Store} {identifier : String} {bytes : ByteArray} {now : Instant}

theorem commit_gains {new : ByteArray → Prop} {written : Written} {attributes : Attributes}
    {previous? : Option Object} (gains : Gains new s t) :
    Gains new s (outcome (commit identifier written attributes previous? now) t).2 := by
  rw [outcome_commit]
  split
  · exact (gains.pointing _ _).withoutAll _
  · exact gains.without _

/-- A commit of the newest blob lets the row hold it. -/
theorem commit_holds {attributes : Attributes} {previous? : Option Object} {object : Object}
    (older : ∀ previous, previous? = some previous → previous.blob < s.nextBlob)
    (done : outcome (commit identifier (s.draft bytes) attributes previous? now) (s.kept bytes) =
      (.ok object, t)) :
    (∃ h, t.holding (.object identifier) = some h ∧ h.blob = s.nextBlob) ∧
      t.blobs.find? s.nextBlob = some bytes := by
  rw [outcome_commit] at done
  split at done
  · have left := congrArg Prod.snd done
    dsimp only at left
    rw [withoutAll_eq] at left
    subst left
    refine ⟨⟨_, holding_object (Table.find?_insert_self ..), rfl⟩, ?_⟩
    rw [Table.find?_eraseAll, if_neg]
    · exact Table.find?_insert_self ..
    · intro member
      obtain ⟨previous, known, same⟩ := by
        simpa only [Option.mem_toList, Option.map_eq_some_iff] using member
      exact absurd same (Nat.ne_of_lt (older previous known))
  · cases done

theorem contentOf_eq {holder : Holder} {h : Holding} (holds : s.holding holder = some h) :
    s.contentOf holder = s.blobs.find? h.blob := by
  rw [contentOf, holds, Option.bind_some]

theorem contentOf_withoutAll {holder : Holder} {h : Holding} {blobs : List Nat}
    (holds : s.holding holder = some h) (stays : h.blob ∉ blobs) :
    (s.withoutAll blobs).contentOf holder = s.blobs.find? h.blob := by
  have still : (s.withoutAll blobs).holding holder = some h := by
    rw [withoutAll_eq]
    exact holds
  rw [contentOf_eq still, withoutAll_eq, Table.find?_eraseAll, if_neg stays]

theorem contentOf_commit {attributes : Attributes} {previous? : Option Object} {object : Object}
    (older : ∀ previous, previous? = some previous → previous.blob < s.nextBlob)
    (done : outcome (commit identifier (s.draft bytes) attributes previous? now) (s.kept bytes) =
      (.ok object, t)) :
    t.contentOf (.object identifier) = some bytes := by
  obtain ⟨⟨h, holds, newest⟩, there⟩ := commit_holds older done
  rw [contentOf_eq holds, newest, there]

/-- What a row holds is older than the next blob. -/
theorem Given.older (given : s.Given) {previous : Object}
    (found : s.fetched identifier = .ok previous) : previous.blob < s.nextBlob := by
  obtain ⟨-, row, there, read⟩ := fetched_eq_ok_iff.mp found
  obtain ⟨_, -, rfl⟩ := readRow_eq_ok_iff.mp read
  exact given (.object identifier) _ (holding_object there)

variable {body : Body}

theorem kept_gains {new : ByteArray → Prop} (isNew : new bytes) :
    Gains new s (s.placed.kept bytes) :=
  Gains.kept (.of_sameContents (.placed s)) isNew

theorem put_gains {attributes : Attributes} :
    Gains (fun bytes => body.contents = .ok bytes) s
      (outcome (put identifier attributes body now) s).2 := by
  rw [outcome_put]
  cases Name.checkIdentifier identifier with
  | error _ => exact .refl s
  | ok _ =>
      cases read : body.contents with
      | error _ => exact .of_sameContents (.placed s)
      | ok bytes =>
          have kept : Gains (fun bytes' => (Except.ok bytes : Except BodyFault _) = .ok bytes') s
              (s.placed.kept bytes) := kept_gains rfl
          dsimp only
          cases s.lookup identifier with
          | error _ => exact kept
          | ok previous? => exact commit_gains kept

theorem put_stored (given : s.Given) {attributes : Attributes} {object : Object}
    (done : outcome (put identifier attributes body now) s = (.ok object, t)) :
    ∃ bytes, body.contents = .ok bytes ∧ t.contentOf (.object identifier) = some bytes := by
  rw [outcome_put] at done
  cases valid : Name.checkIdentifier identifier with
  | error _ =>
      rw [valid] at done
      cases done
  | ok _ =>
      cases read : body.contents with
      | error _ =>
          rw [valid, read] at done
          cases done
      | ok bytes =>
          cases found : s.lookup identifier with
          | error _ =>
              rw [valid, read, found] at done
              cases done
          | ok previous? =>
              rw [valid, read, found] at done
              refine ⟨bytes, rfl, contentOf_commit (s := s.placed) ?_ done⟩
              rintro previous rfl
              exact given.older (show s.fetched identifier = .ok previous by rw [fetched, found])

theorem update_gains :
    Gains (fun bytes => body.contents = .ok bytes) s
      (outcome (update identifier body now) s).2 := by
  rw [outcome_update]
  cases Name.checkIdentifier identifier with
  | error _ => exact .refl s
  | ok _ =>
      cases read : body.contents with
      | error _ => exact .of_sameContents (.placed s)
      | ok bytes =>
          have kept : Gains (fun bytes' => (Except.ok bytes : Except BodyFault _) = .ok bytes') s
              (s.placed.kept bytes) := kept_gains rfl
          dsimp only
          cases s.fetched identifier with
          | error _ => exact kept.without _
          | ok previous => exact commit_gains kept

theorem update_stored (given : s.Given) {object : Object}
    (done : outcome (update identifier body now) s = (.ok object, t)) :
    ∃ bytes, body.contents = .ok bytes ∧ t.contentOf (.object identifier) = some bytes := by
  rw [outcome_update] at done
  cases valid : Name.checkIdentifier identifier with
  | error _ =>
      rw [valid] at done
      cases done
  | ok _ =>
      cases read : body.contents with
      | error _ =>
          rw [valid, read] at done
          cases done
      | ok bytes =>
          cases found : s.fetched identifier with
          | error _ =>
              rw [valid, read, found] at done
              cases done
          | ok previous =>
              rw [valid, read, found] at done
              refine ⟨bytes, rfl, contentOf_commit (s := s.placed) ?_ done⟩
              rintro _ ⟨⟩
              exact given.older found

/-! Adding to an object: its bytes, and the new ones after them. -/

/-- A blob and the newest one are joined in this order. -/
theorem joined_kept {blob : Nat} (older : blob < s.nextBlob) (bytes : ByteArray) :
    (s.kept bytes).joined [blob, s.nextBlob] = (s.content blob).map (· ++ bytes) := by
  have first : (s.kept bytes).content blob = s.content blob := by
    rw [content, kept, Table.find?_insert_of_ne _ _ (Nat.ne_of_lt older)]
    rfl
  have newest : (s.kept bytes).content s.nextBlob = .ok bytes := by
    rw [content, kept, Table.find?_insert_self]
  rw [joined, List.mapM_cons, first, List.mapM_cons, newest]
  cases s.content blob with
  | error _ => rfl
  | ok old => simp [bind, Except.bind, Except.map, pure, Except.pure]

/-- The old bytes of an object are joined with the newest blob. -/
theorem Given.outcome_joinTo (given : s.Given) (identifier : String) (bytes : ByteArray)
    (now : Instant) :
    outcome (joinTo identifier (s.draft bytes) now) (s.placed.kept bytes) =
      match s.fetched identifier with
      | .error fault => (.error fault, s.placed.kept bytes)
      | .ok previous =>
          match s.content previous.blob with
          | .error fault => (.error fault, s.placed.kept bytes)
          | .ok old =>
              outcome
                (commit identifier ((s.placed.kept bytes).draft (old ++ bytes))
                  previous.attributes (some previous) now)
                ((s.placed.kept bytes).kept (old ++ bytes)) := by
  rw [Store.outcome_joinTo, fetched_kept, fetched_placed]
  cases found : s.fetched identifier with
  | error _ => rfl
  | ok previous =>
      dsimp only
      rw [show (s.draft bytes).blob = s.placed.nextBlob from rfl,
        joined_kept (s := s.placed) (given.older found), content_placed]
      cases s.content previous.blob <;> rfl

theorem contentOf_of_fetched {previous : Object} {old : ByteArray}
    (found : s.fetched identifier = .ok previous) (there : s.content previous.blob = .ok old) :
    s.contentOf (.object identifier) = some old := by
  obtain ⟨-, row, listed, read⟩ := fetched_eq_ok_iff.mp found
  obtain ⟨_, -, rfl⟩ := readRow_eq_ok_iff.mp read
  rw [contentOf_eq (holding_object listed)]
  unfold content at there
  split at there
  · next held =>
      cases there
      exact held
  · cases there

theorem append_gains (given : s.Given) :
    Gains
      (fun stored => ∃ bytes, body.contents = .ok bytes ∧
        (stored = bytes ∨ ∃ old, s.contentOf (.object identifier) = some old ∧
          stored = old ++ bytes))
      s (outcome (append identifier body now) s).2 := by
  rw [outcome_append]
  cases Name.checkIdentifier identifier with
  | error _ => exact .refl s
  | ok _ =>
      cases body.contents with
      | error _ => exact .of_sameContents (.placed s)
      | ok bytes =>
          dsimp only
          rw [given.outcome_joinTo]
          refine Gains.without ?_ _
          have added : Gains
              (fun stored => ∃ bytes', (Except.ok bytes : Except BodyFault _) = .ok bytes' ∧
                (stored = bytes' ∨ ∃ old, s.contentOf (.object identifier) = some old ∧
                  stored = old ++ bytes'))
              s (s.placed.kept bytes) := kept_gains ⟨bytes, rfl, .inl rfl⟩
          cases found : s.fetched identifier with
          | error _ => exact added
          | ok previous =>
              dsimp only
              cases there : s.content previous.blob with
              | error _ => exact added
              | ok old =>
                  have known := contentOf_of_fetched found there
                  exact commit_gains (added.kept ⟨bytes, rfl, .inr ⟨old, known, rfl⟩⟩)

/-- What a successful append has joined. -/
theorem append_stored (given : s.Given) {object : Object}
    (done : outcome (append identifier body now) s = (.ok object, t)) :
    ∃ bytes old, body.contents = .ok bytes ∧ s.contentOf (.object identifier) = some old ∧
      t.contentOf (.object identifier) = some (old ++ bytes) := by
  rw [outcome_append] at done
  cases valid : Name.checkIdentifier identifier with
  | error _ =>
      rw [valid] at done
      cases done
  | ok _ =>
      cases read : body.contents with
      | error _ =>
          rw [valid, read] at done
          cases done
      | ok bytes =>
          rw [valid, read] at done
          dsimp only at done
          rw [given.outcome_joinTo] at done
          cases found : s.fetched identifier with
          | error _ =>
              rw [found] at done
              cases done
          | ok previous =>
              cases there : s.content previous.blob with
              | error _ =>
                  rw [found] at done
                  dsimp only at done
                  rw [there] at done
                  cases done
              | ok old =>
                  rw [found] at done
                  dsimp only at done
                  rw [there] at done
                  dsimp only at done
                  generalize ended : outcome _ _ = pair at done
                  obtain ⟨result, u⟩ := pair
                  cases done
                  have older : ∀ p, some previous = some p → p.blob < s.nextBlob + 1 := by
                    rintro _ ⟨⟩
                    exact Nat.lt_succ_of_lt (given.older found)
                  obtain ⟨⟨h, holds, newest⟩, held⟩ :=
                    commit_holds (s := s.placed.kept bytes) older ended
                  refine ⟨bytes, old, rfl, contentOf_of_fetched found there, ?_⟩
                  have differs : h.blob ≠ s.nextBlob := newest ▸ Nat.succ_ne_self _
                  have kept : (u.without s.nextBlob).holding (.object identifier) = some h := holds
                  show (u.without s.nextBlob).contentOf _ = _
                  rw [contentOf_eq kept, without, Table.find?_erase_of_ne _ differs, newest]
                  exact held

/-! Parts of uploads -/

theorem find?_of_uploadFor {name : String} {upload : Upload}
    (found : s.uploadFor name identifier = .ok upload) : s.uploads.find? name = some upload := by
  unfold uploadFor at found
  split at found
  · split at found
    · next there =>
        split at found
        · cases found
          exact there
        · cases found
    · cases found
  · cases found

theorem uploadPart_gains {name : String} {number : Int} :
    Gains (fun bytes => body.contents = .ok bytes) s
      (outcome (uploadPart name identifier number body now) s).2 := by
  rw [outcome_uploadPart]
  split
  · exact .refl s
  · cases s.uploadFor name identifier with
    | error _ => exact .refl s
    | ok upload =>
        cases body.contents with
        | error _ => exact .of_sameContents (.placed s)
        | ok bytes =>
            have kept : Gains (fun bytes' => (Except.ok bytes : Except BodyFault _) = .ok bytes') s
                (s.placed.kept bytes) := kept_gains rfl
            exact Gains.withoutAll (t := (s.placed.kept bytes).withPart ..) kept _

theorem uploadPart_stored (given : s.Given) {name : String} {number : Int} {part : Part}
    (done : outcome (uploadPart name identifier number body now) s = (.ok part, t)) :
    ∃ bytes, body.contents = .ok bytes ∧
      t.contentOf (.part name number.toNat) = some bytes := by
  rw [outcome_uploadPart] at done
  split at done
  · cases done
  · cases found : s.uploadFor name identifier with
    | error _ =>
        rw [found] at done
        cases done
    | ok upload =>
        cases read : body.contents with
        | error _ =>
            rw [found, read] at done
            cases done
        | ok bytes =>
            rw [found, read] at done
            dsimp only at done
            cases done
            have newest : ((s.placed.kept bytes).withPart name number.toNat
                (partOf (s.draft bytes) now)).partRows.find? ⟨name, number.toNat⟩ =
                some (partOf (s.draft bytes) now) := Table.find?_insert_self ..
            have holds := holding_partRow newest
            refine ⟨bytes, rfl, (contentOf_withoutAll holds ?_).trans ?_⟩
            · intro member
              obtain ⟨previous, known, same⟩ := by
                simpa only [Option.mem_toList, Option.map_eq_some_iff] using member
              have older := given _ _ (holding_part (find?_of_uploadFor found) known)
              exact absurd same (Nat.ne_of_lt older)
            · exact Table.find?_insert_self ..

variable (body) (now)

/-! What each operation writes -/

theorem put_writes (identifier : String) (attributes : Attributes) :
    Writes body (fun _ => True) (fun bytes _ new => new = bytes)
      (fun bytes _ t => t.contentOf (.object identifier) = some bytes)
      (put identifier attributes body now) where
  fails _ := trivial
  gains _ := put_gains.mono fun bytes whole => ⟨bytes, whole, rfl⟩
  stores given done := put_stored given done

theorem update_writes (identifier : String) :
    Writes body (fun _ => True) (fun bytes _ new => new = bytes)
      (fun bytes _ t => t.contentOf (.object identifier) = some bytes)
      (update identifier body now) where
  fails _ := trivial
  gains _ := update_gains.mono fun bytes whole => ⟨bytes, whole, rfl⟩
  stores given done := update_stored given done

/-- The bytes that an object held, and some more after them. -/
def Continues (s : Store) (identifier : String) (bytes whole : ByteArray) : Prop :=
  ∃ old, s.contentOf (.object identifier) = some old ∧ whole = old ++ bytes

theorem append_writes (identifier : String) :
    Writes body (fun _ => True)
      (fun bytes s new => new = bytes ∨ Continues s identifier bytes new)
      (fun bytes s t => ∃ whole, Continues s identifier bytes whole ∧
        t.contentOf (.object identifier) = some whole)
      (append identifier body now) where
  fails _ := trivial
  gains given := append_gains given
  stores given done := by
    obtain ⟨bytes, old, whole, held, holds⟩ := append_stored given done
    exact ⟨bytes, whole, old ++ bytes, ⟨old, held, rfl⟩, holds⟩

theorem uploadPart_writes (name identifier : String) (number : Int) :
    Writes body (fun _ => True) (fun bytes _ new => new = bytes)
      (fun bytes _ t => t.contentOf (.part name number.toNat) = some bytes)
      (uploadPart name identifier number body now) where
  fails _ := trivial
  gains _ := uploadPart_gains.mono fun bytes whole => ⟨bytes, whole, rfl⟩
  stores given done := uploadPart_stored given done

end

end Store

end Depot
