import Depot.Auth.Signature
import Depot.Proofs.Percent
import Depot.Server.Admission
import Depot.Server.Route

/-!
# Spellings of a path

A signature covers the canonical form of a path, which is the same for all its
spellings: whether a character stands for itself or is escaped does not matter
to it.  Protocol and route are found in the path as it was sent.  For a path
that is plainly spelled the difference is invisible: it shows the slashes
between the things that it names, and the segments that have a meaning of their
own (`Plain`).  Plain paths with one canonical form have the same protocol and,
by every method, the same route (`dispatch_eq_of_canonicalPath`).

Paths that are not plain can share a signature and yet ask for different things,
as the example at the end does.
-/

namespace Depot.Server

set_option autoImplicit false

open Depot.Auth
open Depot.Text

/-! ## What a path reads as -/

/-- The bytes that a part of a path stands for. -/
def decoded (text : List Char) : List UInt8 := Percent.decodedBytes (String.ofList text)

/-- What stands before the first slash. -/
def segment (text : List Char) : List Char := text.takeWhile (· != '/')

/-- No slash of a part of a path is escaped. -/
def ShowsSlashes (text : List Char) : Prop := ∀ piece, piece ∈ pieces '/' text → 47 ∉ decoded piece

instance (text : List Char) : Decidable (ShowsSlashes text) :=
  inferInstanceAs (Decidable (∀ piece, piece ∈ pieces '/' text → 47 ∉ decoded piece))

theorem decoded_append_slash (before after : List Char) :
    decoded (before ++ '/' :: after) = decoded before ++ 47 :: decoded after := by
  have whole : bytes (String.ofList (before ++ '/' :: after)) =
      bytes (String.ofList before) ++ 47 :: bytes (String.ofList after) := by
    have slash : bytes "/" = [47] := by decide
    have parts : String.ofList (before ++ '/' :: after) =
        String.ofList before ++ ("/" ++ String.ofList after) := by
      rw [String.ofList_append, ← List.singleton_append, String.ofList_append]
    rw [parts, bytes_append, bytes_append, slash]
    rfl
  unfold decoded Percent.decodedBytes
  rw [whole, Percent.decode_append_mark (by decide) (by decide)]

theorem decoded_eq_nil_iff {text : List Char} : decoded text = [] ↔ text = [] := by
  unfold decoded Percent.decodedBytes
  rw [Percent.decode_eq_nil_iff]
  constructor
  · intro none
    have same : String.ofList text = "" := bytes_inj none
    simpa using congrArg String.toList same
  · rintro rfl
    rfl

theorem isEmpty_eq {text text' : List Char} (same : decoded text = decoded text') :
    text.isEmpty = text'.isEmpty := by
  rw [Bool.eq_iff_iff, List.isEmpty_iff, List.isEmpty_iff, ← decoded_eq_nil_iff, same,
    decoded_eq_nil_iff]

theorem kept_of_clean {text : List Char} (clean : '/' ∉ text) :
    ∀ c, c ∈ text → (c != '/') = true := by
  intro c member
  have differs : c ≠ '/' := fun same => clean (same ▸ member)
  simpa using differs

theorem segment_of_clean {text : List Char} (clean : '/' ∉ text) : segment text = text := by
  rw [segment, ← List.append_nil text, List.takeWhile_append_of_pos (kept_of_clean clean),
    List.takeWhile_nil]

theorem segment_append {before : List Char} (clean : '/' ∉ before) (after : List Char) :
    segment (before ++ '/' :: after) = before := by
  rw [segment, List.takeWhile_append_of_pos (kept_of_clean clean)]
  simp

/-- A text whose first segment hides no slash is cut before decoding as it is after. -/
theorem cutAt_decoded {text : List Char} (shown : 47 ∉ decoded (segment text)) :
    cutAt 47 (decoded text) = (cutAt '/' text).map (Prod.map decoded decoded) := by
  rcases clean_or_append '/' text with clean | ⟨before, after, clean, rfl⟩
  · rw [segment_of_clean clean] at shown
    rw [cutAt_eq_none shown, cutAt_eq_none clean]
    rfl
  · rw [segment_append clean] at shown
    rw [decoded_append_slash, cutAt_append shown, cutAt_append clean]
    rfl

/-- Two texts have no slash, or have their first one at the same place of what they read as. -/
inductive CutAlike : List Char → List Char → Prop where
  | whole {text text' : List Char} (clean : '/' ∉ text) (clean' : '/' ∉ text')
      (same : decoded text = decoded text') : CutAlike text text'
  | parts {first after first' after' : List Char} (clean : '/' ∉ first) (clean' : '/' ∉ first')
      (firsts : decoded first = decoded first') (afters : decoded after = decoded after') :
      CutAlike (first ++ '/' :: after) (first' ++ '/' :: after')

/-- Texts that read alike, and whose first segments hide no slash, are cut alike. -/
theorem cutAlike {text text' : List Char} (same : decoded text = decoded text')
    (shown : 47 ∉ decoded (segment text)) (shown' : 47 ∉ decoded (segment text')) :
    CutAlike text text' := by
  have cuts : (cutAt '/' text).map (Prod.map decoded decoded) =
      (cutAt '/' text').map (Prod.map decoded decoded) := by
    rw [← cutAt_decoded shown, ← cutAt_decoded shown', same]
  rcases clean_or_append '/' text with clean | ⟨first, after, clean, rfl⟩
  · rcases clean_or_append '/' text' with clean' | ⟨first', after', clean', rfl⟩
    · exact .whole clean clean' same
    · rw [cutAt_eq_none clean, cutAt_append clean'] at cuts
      cases cuts
  · rcases clean_or_append '/' text' with clean' | ⟨first', after', clean', rfl⟩
    · rw [cutAt_append clean, cutAt_eq_none clean'] at cuts
      cases cuts
    · rw [cutAt_append clean, cutAt_append clean'] at cuts
      simp only [Option.map_some, Prod.map_apply, Option.some.injEq, Prod.mk.injEq] at cuts
      exact .parts clean clean' cuts.1 cuts.2

theorem CutAlike.segments {text text' : List Char} (cut : CutAlike text text') :
    decoded (segment text) = decoded (segment text') := by
  cases cut with
  | whole clean clean' same => rw [segment_of_clean clean, segment_of_clean clean', same]
  | parts clean clean' firsts _ => rw [segment_append clean, segment_append clean', firsts]

namespace ShowsSlashes

theorem of_append {before after : List Char} (shows : ShowsSlashes (before ++ '/' :: after))
    (clean : '/' ∉ before) : 47 ∉ decoded before ∧ ShowsSlashes after := by
  unfold ShowsSlashes at *
  rw [pieces_append clean] at shows
  exact ⟨shows before List.mem_cons_self, fun piece member => shows piece (.tail _ member)⟩

theorem of_clean {text : List Char} (shows : ShowsSlashes text) (clean : '/' ∉ text) :
    47 ∉ decoded text :=
  shows text (by rw [pieces_eq_singleton clean]; exact List.mem_cons_self)

theorem segment {text : List Char} (shows : ShowsSlashes text) : 47 ∉ decoded (segment text) := by
  rcases clean_or_append '/' text with clean | ⟨before, after, clean, rfl⟩
  · rw [segment_of_clean clean]
    exact shows.of_clean clean
  · rw [segment_append clean]
    exact (shows.of_append clean).1

/-- Slashes that are shown are there before decoding as they are after. -/
theorem mem_iff {text : List Char} (shows : ShowsSlashes text) :
    47 ∈ decoded text ↔ '/' ∈ text := by
  rcases clean_or_append '/' text with clean | ⟨before, after, clean, rfl⟩
  · exact iff_of_false (shows.of_clean clean) clean
  · rw [decoded_append_slash]
    exact iff_of_true (by simp) (by simp)

/-- A text without slashes, also after decoding, is empty when it reads as slashes only. -/
theorem all_iff_of_clean {text : List Char} (hidden : 47 ∉ decoded text) (clean : '/' ∉ text) :
    (∀ b, b ∈ decoded text → b = 47) ↔ ∀ c, c ∈ text → c = '/' := by
  have read : (∀ b, b ∈ decoded text → b = 47) ↔ decoded text = [] := by
    rw [List.eq_nil_iff_forall_not_mem]
    exact forall_congr' fun b =>
      ⟨fun all member => hidden (all member ▸ member), fun absent member => (absent member).elim⟩
  have sent : (∀ c, c ∈ text → c = '/') ↔ text = [] := by
    rw [List.eq_nil_iff_forall_not_mem]
    exact forall_congr' fun c =>
      ⟨fun all member => clean (all member ▸ member), fun absent member => (absent member).elim⟩
  rw [read, sent, decoded_eq_nil_iff]

/-- A text that shows its slashes consists of them when it reads as slashes only. -/
theorem all_iff {text : List Char} (shows : ShowsSlashes text) :
    (∀ b, b ∈ decoded text → b = 47) ↔ ∀ c, c ∈ text → c = '/' := by
  rcases clean_or_append '/' text with clean | ⟨before, after, clean, whole⟩
  · exact all_iff_of_clean (shows.of_clean clean) clean
  · subst whole
    obtain ⟨hidden, rest⟩ := shows.of_append clean
    have first := all_iff_of_clean hidden clean
    have onward := rest.all_iff
    rw [decoded_append_slash]
    simp only [List.mem_append, List.mem_cons, or_imp, forall_and, forall_eq, true_and, first,
      onward]
termination_by text.length

end ShowsSlashes

/-! ## Plain spellings -/

/-- The first segments that have a meaning of their own. -/
def reserved : List String := "s3" :: (openPaths ++ nativeVerbs)

/-- A path, given without its first slash, that is spelled so that its slashes and the words that
lead somewhere of their own can be seen. -/
structure Plain (rest : List Char) : Prop where
  /-- No other slash follows the first one. -/
  single : rest.head? ≠ some '/'
  /-- The first segment has no escaped slash. -/
  first : 47 ∉ decoded (segment rest)
  /-- A first segment with a meaning of its own is not escaped. -/
  spelled : ∀ word, word ∈ reserved → decoded (segment rest) = bytes word →
    segment rest = word.toList
  /-- The segment after `s3` has no escaped slash. -/
  mounted : segment rest = "s3".toList → 47 ∉ decoded (segment (rest.drop 3))
  /-- After a probe or the verb with two keys there is no escaped slash at all. -/
  divided : segment rest ∈ ["healthz".toList, "readyz".toList, "update_key".toList] →
    ShowsSlashes rest

instance (rest : List Char) : Decidable (Plain rest) :=
  decidable_of_iff
    (rest.head? ≠ some '/' ∧ 47 ∉ decoded (segment rest) ∧
      (∀ word, word ∈ reserved → decoded (segment rest) = bytes word →
        segment rest = word.toList) ∧
      (segment rest = "s3".toList → 47 ∉ decoded (segment (rest.drop 3))) ∧
      (segment rest ∈ ["healthz".toList, "readyz".toList, "update_key".toList] →
        ShowsSlashes rest))
    ⟨fun ⟨single, first, spelled, mounted, divided⟩ => ⟨single, first, spelled, mounted, divided⟩,
      fun ⟨single, first, spelled, mounted, divided⟩ => ⟨single, first, spelled, mounted, divided⟩⟩

/-- Reserved words stand for themselves and are of one segment. -/
theorem decoded_reserved {word : String} (known : word ∈ reserved) :
    decoded word.toList = bytes word ∧ '/' ∉ word.toList ∧ word.toList ≠ [] := by
  have every : ∀ word, word ∈ reserved →
      decoded word.toList = bytes word ∧ '/' ∉ word.toList ∧ word.toList ≠ [] := by decide +kernel
  exact every word known

section

variable {rest rest' : List Char}

/-- Plain paths that read alike begin with the same reserved word, if with any. -/
theorem Plain.segment_iff (plain : Plain rest) (plain' : Plain rest')
    (same : decoded (segment rest) = decoded (segment rest')) {word : String}
    (known : word ∈ reserved) : segment rest = word.toList ↔ segment rest' = word.toList := by
  have own := (decoded_reserved known).1
  constructor
  · intro here
    rw [here, own] at same
    exact plain'.spelled word known same.symm
  · intro here
    rw [here, own] at same
    exact plain.spelled word known same

end

/-! ## Places -/

/-- A name in its canonical spelling. -/
def respell (name : String) : String :=
  Percent.encodedText Percent.isPathByte (Percent.decodedBytes name)

/-- The place with all that it names in canonical spelling. -/
def Place.respelled : Place → Place
  | .healthz => .healthz
  | .readyz => .readyz
  | .put key => .put (respell key)
  | .putBinary key => .putBinary (respell key)
  | .get key => .get (respell key)
  | .update key => .update (respell key)
  | .append key => .append (respell key)
  | .rename old new => .rename (respell old) (respell new)
  | .delete key => .delete (respell key)
  | .buckets => .buckets
  | .bucket name => .bucket (respell name)
  | .object name key => .object (respell name) (respell key)

theorem respell_eq {text text' : List Char} (same : decoded text = decoded text') :
    respell (String.ofList text) = respell (String.ofList text') :=
  congrArg (Percent.encodedText Percent.isPathByte) same

theorem decodedText?_respell (name : String) :
    Percent.decodedText? (respell name) = Percent.decodedText? name := by
  unfold Percent.decodedText? respell
  rw [Percent.decodedBytes_encodedText (fun _ => Percent.isPathByte_ascii) (by decide)]

theorem methods_respelled (place : Place) : place.respelled.methods = place.methods := by
  cases place <;> rfl

/-- The spelling of what a place names does not matter to its routes. -/
theorem atPlace_respelled (method : String) (place : Place) :
    Route.atPlace method place.respelled = Route.atPlace method place := by
  unfold Route.atPlace
  rw [methods_respelled]
  split
  · rfl
  · cases place <;>
      simp only [Place.respelled, Route.withKey, Route.withBucket, Route.withObject,
        Route.withText, decodedText?_respell]

/-- Paths of the S3 protocol that read alike lead to one place, when their buckets show where they
end. -/
theorem ofS3_respelled {path path' : List Char} (cut : CutAlike path path') :
    (Place.ofS3 path).respelled = (Place.ofS3 path').respelled := by
  unfold Place.ofS3
  cases cut with
  | whole clean clean' same =>
      rw [cutAt_eq_none clean, cutAt_eq_none clean', isEmpty_eq same]
      dsimp only
      split
      · rfl
      · exact congrArg Place.bucket (respell_eq same)
  | parts clean clean' buckets keys =>
      rw [cutAt_append clean, cutAt_append clean']
      dsimp only
      rw [isEmpty_eq keys]
      split
      · exact congrArg Place.bucket (respell_eq buckets)
      · rw [Place.respelled, Place.respelled, respell_eq buckets, respell_eq keys]

/-- The verb that takes two keys cuts them at the first slash, and takes no third. -/
theorem ofVerb?_update_key (rest : List Char) :
    Place.ofVerb? "update_key".toList rest =
      (cutAt '/' rest).bind fun keys =>
        if keys.2 = [] ∨ '/' ∈ keys.2 then none
        else some (.rename (String.ofList keys.1) (String.ofList keys.2)) := by
  have others : ∀ word, word ∈ ["put", "put_binary", "get", "update", "append", "delete"] →
      "update_key".toList ≠ word.toList := by decide
  unfold Place.ofVerb?
  simp only [List.mem_cons, List.not_mem_nil, or_false, forall_eq_or_imp, forall_eq] at others
  obtain ⟨put, putBinary, get, update, append, delete⟩ := others
  simp only [if_neg put, if_neg putBinary, if_neg get, if_neg update, if_neg append,
    if_neg delete, if_pos]
  cases rest with
  | nil => rfl
  | cons c rest =>
      cases cutAt '/' (c :: rest) with
      | none => rfl
      | some keys =>
          obtain ⟨old, new⟩ := keys
          simp

/-- What a native verb makes of keys that read alike is the same, when the keys of the verb that
takes two show their slashes. -/
theorem ofVerb?_respelled {rest rest' : List Char} (same : decoded rest = decoded rest')
    (verb : List Char) (shows : verb = "update_key".toList → ShowsSlashes rest)
    (shows' : verb = "update_key".toList → ShowsSlashes rest') :
    (Place.ofVerb? verb rest).map Place.respelled =
      (Place.ofVerb? verb rest').map Place.respelled := by
  by_cases two : verb = "update_key".toList
  · rw [two, ofVerb?_update_key, ofVerb?_update_key]
    cases cutAlike same (shows two).segment (shows' two).segment with
    | whole clean clean' _ => rw [cutAt_eq_none clean, cutAt_eq_none clean']
    | @parts _ new _ new' clean clean' olds news =>
        have last := ((shows two).of_append clean).2
        have last' := ((shows' two).of_append clean').2
        have refused : (new = [] ∨ '/' ∈ new) ↔ (new' = [] ∨ '/' ∈ new') := by
          rw [← decoded_eq_nil_iff, ← last.mem_iff, news, decoded_eq_nil_iff, last'.mem_iff]
        rw [cutAt_append clean, cutAt_append clean']
        simp only [Option.bind_some, apply_ite (Option.map Place.respelled), Option.map_some,
          Option.map_none, Place.respelled, respell_eq olds, respell_eq news, refused]
  · have key := respell_eq same
    unfold Place.ofVerb?
    rw [isEmpty_eq same, if_neg two, if_neg two]
    simp only [apply_ite (Option.map Place.respelled), Option.map_some, Option.map_none,
      Place.respelled, key]

theorem ofVerb?_eq_none {verb : List Char} (other : ∀ word, word ∈ nativeVerbs → verb ≠ word.toList)
    (rest : List Char) : Place.ofVerb? verb rest = none := by
  simp only [nativeVerbs, List.mem_cons, List.not_mem_nil, or_false, forall_eq_or_imp,
    forall_eq] at other
  obtain ⟨put, putBinary, get, update, append, rename, delete⟩ := other
  unfold Place.ofVerb?
  simp only [if_neg put, if_neg putBinary, if_neg get, if_neg update, if_neg append,
    if_neg rename, if_neg delete, ite_self]

section

variable {rest rest' : List Char}

theorem Plain.cutAlike (plain : Plain rest) (plain' : Plain rest')
    (same : decoded rest = decoded rest') : CutAlike rest rest' :=
  Server.cutAlike same plain.first plain'.first

/-- A plain path is a reserved word when one that reads alike is. -/
theorem Plain.eq_word (plain : Plain rest) (plain' : Plain rest')
    (same : decoded rest = decoded rest') {word : String} (known : word ∈ reserved)
    (here : rest = word.toList) : rest' = word.toList := by
  obtain ⟨-, single, -⟩ := decoded_reserved known
  have cut := plain.cutAlike plain' same
  have begins := plain.segment_iff plain' cut.segments known
  cases cut with
  | whole clean clean' _ =>
      rw [segment_of_clean clean, segment_of_clean clean'] at begins
      exact begins.mp here
  | parts clean _ _ _ =>
      rw [← here] at single
      exact absurd List.mem_append_cons_self single

/-- What the native protocol makes of plain paths that read alike is the same. -/
theorem Plain.verb_respelled {first after first' after' : List Char}
    (plain : Plain (first ++ '/' :: after)) (plain' : Plain (first' ++ '/' :: after'))
    (clean : '/' ∉ first) (clean' : '/' ∉ first')
    (begins : ∀ {w : String}, w ∈ reserved → (first = w.toList ↔ first' = w.toList))
    (afters : decoded after = decoded after') :
    (Place.ofVerb? first after).map Place.respelled =
      (Place.ofVerb? first' after').map Place.respelled := by
  have verbs {verb : String} (known : verb ∈ nativeVerbs) :
      first = verb.toList ↔ first' = verb.toList :=
    begins (List.mem_cons_of_mem _ (List.mem_append_right _ known))
  by_cases native : ∃ verb, verb ∈ nativeVerbs ∧ first = verb.toList
  · obtain ⟨verb, known, rfl⟩ := native
    obtain rfl := (verbs known).mp rfl
    refine ofVerb?_respelled afters _ (fun two => ?_) (fun two => ?_)
    · refine ((plain.divided ?_).of_append clean).2
      rw [segment_append clean, two]
      decide
    · refine ((plain'.divided ?_).of_append clean').2
      rw [segment_append clean', two]
      decide
  · have other : ∀ verb, verb ∈ nativeVerbs → first ≠ verb.toList :=
      fun verb known same => native ⟨verb, known, same⟩
    have other' : ∀ verb, verb ∈ nativeVerbs → first' ≠ verb.toList :=
      fun verb known same => other verb known ((verbs known).mpr same)
    rw [ofVerb?_eq_none other, ofVerb?_eq_none other']

/-- **Plain paths that read alike lead to one place.** -/
theorem Plain.ofRest_respelled (plain : Plain rest) (plain' : Plain rest')
    (same : decoded rest = decoded rest') :
    (Place.ofRest rest).respelled = (Place.ofRest rest').respelled := by
  have word {w : String} (known : w ∈ reserved) : rest = w.toList ↔ rest' = w.toList :=
    ⟨plain.eq_word plain' same known, plain'.eq_word plain same.symm known⟩
  have cut := plain.cutAlike plain' same
  have bucket := ofS3_respelled cut
  have begins {w : String} (known : w ∈ reserved) := plain.segment_iff plain' cut.segments known
  unfold Place.ofRest
  rw [apply_ite Place.respelled, apply_ite Place.respelled, apply_ite Place.respelled,
    apply_ite Place.respelled, apply_ite Place.respelled, apply_ite Place.respelled]
  refine ite_congr (propext (word (by decide))) (fun _ => rfl) fun _ => ?_
  refine ite_congr (propext (word (by decide))) (fun _ => rfl) fun _ => ?_
  refine ite_congr (propext (word (by decide))) (fun _ => rfl) fun _ => ?_
  cases cut with
  | whole clean clean' _ =>
      rw [cutAt_eq_none clean, cutAt_eq_none clean']
      exact bucket
  | @parts first after first' after' clean clean' firsts afters =>
      rw [segment_append clean, segment_append clean'] at begins
      have mounted : (first = "s3".toList ∧ after ≠ []) ↔ (first' = "s3".toList ∧ after' ≠ []) := by
        rw [begins (by decide), ne_eq, ← decoded_eq_nil_iff, afters, decoded_eq_nil_iff]
      have verbs := plain.verb_respelled plain' clean clean' begins afters
      rw [cutAt_append clean, cutAt_append clean']
      dsimp only
      rw [apply_ite Place.respelled, apply_ite Place.respelled]
      refine ite_congr (propext mounted) (fun here => ?_) fun _ => ?_
      · have there := mounted.mpr here
        have shown := plain.mounted ((segment_append clean after).trans there.1)
        have shown' := plain'.mounted ((segment_append clean' after').trans here.1)
        rw [there.1] at shown
        rw [here.1] at shown'
        exact ofS3_respelled (Server.cutAlike afters shown shown')
      · rw [← Option.getD_map Place.respelled, ← Option.getD_map Place.respelled, verbs, bucket]

end

/-! ## Protocols -/

/-- Trimming removes just what follows, when that is all to be trimmed. -/
theorem trimEnd_append_eq_iff {p : Char → Bool} {first : List Char}
    (stays : ∀ c, c ∈ first → p c = false) (tail : List Char) :
    trimEnd p (first ++ tail) = first ↔ ∀ c, c ∈ tail → p c := by
  have last : first.reverse.dropWhile p = first.reverse := by
    cases backwards : first.reverse with
    | nil => rfl
    | cons c rest =>
        have member : c ∈ first := by
          rw [← List.mem_reverse, backwards]
          exact List.mem_cons_self
        rw [List.dropWhile_cons_of_neg (by simp [stays c member])]
  unfold trimEnd
  rw [List.reverse_append]
  constructor
  · intro trimmed
    have kept := List.reverse_eq_iff.mp trimmed
    have whole := List.takeWhile_append_dropWhile (p := p) (l := tail.reverse ++ first.reverse)
    have all := List.all_takeWhile (p := p) (l := tail.reverse ++ first.reverse)
    rw [kept] at whole
    rw [List.append_cancel_right whole] at all
    simpa using all
  · intro all
    rw [List.dropWhile_append_of_pos (by simpa using all), last, List.reverse_reverse]

section

variable {rest rest' : List Char}

theorem Plain.trimStart_eq (plain : Plain rest) :
    trimStart (fun c => c == '/') ('/' :: rest) = rest := by
  cases rest with
  | nil => rfl
  | cons c rest =>
      have differs : c ≠ '/' := fun same => plain.single (congrArg some same)
      simp [trimStart, differs]

/-- Trimming the slashes of a path leaves its first segment when only slashes follow that. -/
theorem Plain.trim_iff (plain : Plain rest) :
    trim (fun c => c == '/') ('/' :: rest) = segment rest ↔
      ∀ c, c ∈ rest.drop (segment rest).length → c = '/' := by
  have stays {text : List Char} (clean : '/' ∉ text) : ∀ c, c ∈ text → (c == '/') = false :=
    fun c member => by simpa using kept_of_clean clean c member
  unfold trim
  rw [plain.trimStart_eq]
  rcases clean_or_append '/' rest with clean | ⟨first, after, clean, whole⟩
  · have ends := trimEnd_append_eq_iff (stays clean) []
    rw [List.append_nil] at ends
    rw [segment_of_clean clean, ends, List.drop_length]
    simp
  · rw [whole, segment_append clean, trimEnd_append_eq_iff (stays clean), List.drop_left]
    simp

/-- Nothing but slashes follows a probe in a plain path when that is so in one that reads alike. -/
theorem Plain.bare_iff (plain : Plain rest) (plain' : Plain rest') (cut : CutAlike rest rest')
    (shows : ShowsSlashes rest) (shows' : ShowsSlashes rest') :
    trim (fun c => c == '/') ('/' :: rest) = segment rest ↔
      trim (fun c => c == '/') ('/' :: rest') = segment rest' := by
  rw [plain.trim_iff, plain'.trim_iff]
  cases cut with
  | whole clean clean' _ => simp [segment_of_clean clean, segment_of_clean clean']
  | parts clean clean' _ afters =>
      have last := (shows.of_append clean).2.all_iff
      have last' := (shows'.of_append clean').2.all_iff
      rw [segment_append clean, segment_append clean', List.drop_left, List.drop_left]
      simp only [List.mem_cons, forall_eq_or_imp, true_and, ← last, ← last', afters]

/-- Plain paths that read alike begin with one of some reserved words together. -/
theorem Plain.contains_segment (plain : Plain rest) (plain' : Plain rest')
    (cut : CutAlike rest rest') {words : List String} (known : ∀ w, w ∈ words → w ∈ reserved) :
    words.contains (String.ofList (segment rest)) =
      words.contains (String.ofList (segment rest')) := by
  have begins {w : String} (known : w ∈ reserved) := plain.segment_iff plain' cut.segments known
  have own (text : List Char) (w : String) : String.ofList text = w ↔ text = w.toList :=
    ⟨fun here => by rw [← here, String.toList_ofList], fun here => by rw [here]; simp⟩
  rw [Bool.eq_iff_iff, List.contains_iff_mem, List.contains_iff_mem]
  constructor
  · intro member
    have here := (begins (known _ member)).mp (String.toList_ofList ..).symm
    rwa [(own _ _).mpr here]
  · intro member
    have here := (begins (known _ member)).mpr (String.toList_ofList ..).symm
    rwa [(own _ _).mpr here]

/-- A plain path that begins with a probe shows where that ends. -/
theorem Plain.shows_of_probe (plain : Plain rest)
    (probe : openPaths.contains (String.ofList (segment rest))) : ShowsSlashes rest := by
  refine plain.divided ?_
  rw [List.contains_iff_mem] at probe
  simp only [openPaths, List.mem_cons, List.not_mem_nil, or_false] at probe
  rcases probe with live | ready
  · simp [← live]
  · simp [← ready]

/-- **Plain paths that read alike are of one protocol.** -/
theorem Plain.protocol_eq (plain : Plain rest) (plain' : Plain rest')
    (same : decoded rest = decoded rest') :
    Protocol.ofPath (String.ofList ('/' :: rest)) =
      Protocol.ofPath (String.ofList ('/' :: rest')) := by
  have cut := plain.cutAlike plain' same
  have native : nativeVerbs.contains (String.ofList (segment rest)) = _ :=
    plain.contains_segment plain' cut fun w member => by simp [reserved, member]
  have probes : openPaths.contains (String.ofList (segment rest)) = _ :=
    plain.contains_segment plain' cut fun w member => by simp [reserved, member]
  have probe : (openPaths.contains (String.ofList (segment rest)) &&
        String.ofList (trim (fun c => c == '/') ('/' :: rest)) == String.ofList (segment rest)) =
      (openPaths.contains (String.ofList (segment rest')) &&
        String.ofList (trim (fun c => c == '/') ('/' :: rest')) ==
          String.ofList (segment rest')) := by
    rw [← probes]
    cases known : openPaths.contains (String.ofList (segment rest)) with
    | false => rfl
    | true =>
        rw [Bool.true_and, Bool.true_and, Bool.eq_iff_iff, beq_iff_eq, beq_iff_eq,
          String.ofList_inj, String.ofList_inj]
        exact plain.bare_iff plain' cut (plain.shows_of_probe known)
          (plain'.shows_of_probe (probes ▸ known))
  unfold Protocol.ofPath
  simp only [String.toList_ofList, plain.trimStart_eq, plain'.trimStart_eq]
  unfold segment at native probe
  rw [native, probe]

end

/-! ## Signatures -/

/-- A path that is plainly spelled. -/
def PlainPath (path : String) : Prop := ∃ rest, path = String.ofList ('/' :: rest) ∧ Plain rest

/-- Paths with one canonical form read alike. -/
theorem decoded_eq_of_canonicalPath {rest rest' : List Char}
    (same : canonicalPath (String.ofList ('/' :: rest)) =
      canonicalPath (String.ofList ('/' :: rest'))) : decoded rest = decoded rest' := by
  have slash (text : List Char) : decoded ('/' :: text) = 47 :: decoded text := by
    have none : decoded [] = [] := decoded_eq_nil_iff.mpr rfl
    have whole := decoded_append_slash [] text
    rwa [none] at whole
  have read (text : List Char) :
      Percent.decodedBytes (canonicalPath (String.ofList ('/' :: text))) = 47 :: decoded text := by
    have filled : (String.ofList ('/' :: text)).isEmpty = false := by simp
    rw [canonicalPath, filled, ← slash]
    exact Percent.decodedBytes_encodedText (fun _ => Percent.isPathByte_ascii) (by decide) _
  have bytes := (read rest).symm.trans (same ▸ read rest')
  exact (List.cons.inj bytes).2

/-- The canonical form of the path is all that a signature covers of it. -/
theorem verify_eq_of_canonicalPath {path path' : String}
    (same : canonicalPath path = canonicalPath path') (verifier : Verifier) (method : String)
    (target : Http.Target) (headers : Http.Headers) (payloadHash : String) (now : Time.Instant) :
    verifier.verify ⟨method, { target with path }, headers, payloadHash⟩ now =
      verifier.verify ⟨method, { target with path := path' }, headers, payloadHash⟩ now := by
  have canonical (signedHeaders : List String) :
      canonicalRequest method { target with path } headers signedHeaders payloadHash =
        canonicalRequest method { target with path := path' } headers signedHeaders
          payloadHash := by
    unfold canonicalRequest
    rw [same]
    rfl
  unfold Verifier.verify
  simp only [canonical]

/-- **A signature over a plainly spelled path authorises one operation.**  Whoever verifies a
signature for one of two plain paths with the same canonical form verifies it for the other, and
both are of one protocol and lead, by every method, to the same endpoint with the same decoded
names. -/
theorem dispatch_eq_of_canonicalPath {path path' : String} (plain : PlainPath path)
    (plain' : PlainPath path') (same : canonicalPath path = canonicalPath path') :
    (∀ (verifier : Verifier) (method : String) (target : Http.Target) (headers : Http.Headers)
      (payloadHash : String) (now : Time.Instant),
      verifier.verify ⟨method, { target with path }, headers, payloadHash⟩ now =
        verifier.verify ⟨method, { target with path := path' }, headers, payloadHash⟩ now) ∧
      Protocol.ofPath path = Protocol.ofPath path' ∧
      ∀ method, Route.of method path = Route.of method path' := by
  obtain ⟨rest, rfl, plain⟩ := plain
  obtain ⟨rest', rfl, plain'⟩ := plain'
  have alike := decoded_eq_of_canonicalPath same
  refine ⟨verify_eq_of_canonicalPath same, plain.protocol_eq plain' alike, fun method => ?_⟩
  have place (text : List Char) :
      Place.ofPath? (String.ofList ('/' :: text)) = some (Place.ofRest text) := by
    rw [Place.ofPath?, String.toList_ofList]
    rfl
  rw [Route.of, Route.of, place, place]
  dsimp only
  rw [← atPlace_respelled, plain.ofRest_respelled plain' alike, atPlace_respelled]

/-- Whether the slash in a key is escaped does not matter. -/
theorem slash_in_key_dispatch :
    PlainPath "/get/a%2Fb" ∧ PlainPath "/get/a/b" ∧
      canonicalPath "/get/a%2Fb" = canonicalPath "/get/a/b" ∧
      Route.of "GET" "/get/a%2Fb" = Route.of "GET" "/get/a/b" := by
  have escaped : PlainPath "/get/a%2Fb" := ⟨"get/a%2Fb".toList, by decide, by decide⟩
  have shown : PlainPath "/get/a/b" := ⟨"get/a/b".toList, by decide, by decide⟩
  have same : canonicalPath "/get/a%2Fb" = canonicalPath "/get/a/b" := by decide
  exact ⟨escaped, shown, same, (dispatch_eq_of_canonicalPath escaped shown same).2.2 "GET"⟩

/-- Two ways to rename share a signature when it is an escaped slash that tells the old key from
the new one. -/
example :
    canonicalPath "/update_key/a%2Fb/c" = canonicalPath "/update_key/a/b%2Fc" ∧
      Route.of "PUT" "/update_key/a%2Fb/c" = .endpoint (.rename "a/b" "c") ∧
      Route.of "PUT" "/update_key/a/b%2Fc" = .endpoint (.rename "a" "b/c") := by
  decide +kernel

end Depot.Server
