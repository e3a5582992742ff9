import Depot.Proofs.Auth.CanonicalQuery
import Depot.Server.Respond

/-!
# Spellings of a query

A signature covers the canonical form of a query, which is the same for all its
spellings: the order of the pairs does not matter to it, nor whether a character
is escaped, a name has an equals sign, or a piece is empty.  The endpoints read
the query as a form is read.  Both readings cut the same pieces and decode the
same triples, but a plus sign stands for itself in the first and for a space in
the second.  So queries with one canonical form say the same to every endpoint
as long as no plus sign stands in what the endpoint reads
(`reading_eq_of_canonicalQuery`).

Queries in which a plus sign stands for itself can share a signature and yet ask
for different things, as the example at the end does.
-/

namespace Depot

set_option autoImplicit false

/-! ## Short bytes in any bytes -/

namespace Text

theorem long_of_leadShape? {b low high : UInt8} {length : Nat}
    (shape : leadShape? b = some (length, low, high)) : 0x80 ≤ low := by
  unfold leadShape? at shape
  grind

/-- An ASCII byte is read as its character, whatever stands around it. -/
theorem mem_lossyChars {b : UInt8} (ascii : b < 0x80) {list : List UInt8} (member : b ∈ list) :
    Char.ofNat b.toNat ∈ lossyChars list := by
  have short {c : UInt8} (long : 0x80 ≤ c) : b ≠ c := by
    rintro rfl
    exact absurd ascii (UInt8.not_lt.mpr long)
  have second {a low high c : UInt8} {length : Nat}
      (shape : leadShape? a = some (length, low, high)) (range : low ≤ c) : b ≠ c :=
    short (UInt8.le_trans (long_of_leadShape? shape) range)
  have continues {c : UInt8} (continues : isContinuation c) : b ≠ c :=
    short (by simpa using (Bool.and_eq_true_iff.mp continues).1)
  -- A sequence holds bytes from 0x80 on only, so the byte is never passed over inside one.
  fun_induction lossyChars list <;> grind

end Text

/-! ## What is read under known names -/

namespace Http

open Depot.Auth
open Depot.Text

/-- The parameters of known names. -/
def heard (known : List String) (params : List Parameter) : List Parameter :=
  params.filter fun p => known.contains p.name

theorem repeatedName?_eq_none_iff {known : List String} {params : List Parameter} :
    repeatedName? known params = none ↔ ((heard known params).map Parameter.name).Nodup := by
  have walk (met : List String) : repeatedName?.go known met params = none ↔
      ((heard known params).map Parameter.name).Nodup ∧
        ∀ p, p ∈ heard known params → p.name ∉ met := by
    induction params generalizing met with
    | nil => simp [repeatedName?.go, heard]
    | cons p rest ih =>
        rw [repeatedName?.go]
        cases listed : known.contains p.name with
        | false =>
            have skipped : heard known (p :: rest) = heard known rest :=
              List.filter_cons_of_neg (by simpa using listed)
            simpa [skipped] using ih met
        | true =>
            have taken : heard known (p :: rest) = p :: heard known rest :=
              List.filter_cons_of_pos (by simpa using listed)
            rw [taken]
            by_cases twice : p.name ∈ met
            · simp [twice]
            · simp only [Bool.not_true, Bool.false_eq_true, if_false, List.contains_iff_mem, twice,
                ih, List.map_cons, List.nodup_cons, List.mem_map, List.mem_cons, not_or]
              grind
  exact (walk []).trans (and_iff_left fun p _ => List.not_mem_nil)

theorem valueOf?_heard {known : List String} (params : List Parameter) {name : String}
    (listed : name ∈ known) : valueOf? (heard known params) name = valueOf? params name := by
  unfold valueOf? heard
  rw [List.find?_filter]
  congr 2
  funext p
  by_cases same : p.name = name <;> simp [same, listed]

/-- What is read under known names does not depend on the order of their parameters. -/
theorem heard_perm {known : List String} {params params' : List Parameter}
    (perm : (heard known params).Perm (heard known params')) :
    (repeatedName? known params = none ↔ repeatedName? known params' = none) ∧
      (repeatedName? known params = none →
        ∀ name, name ∈ known → valueOf? params name = valueOf? params' name) := by
  have names := perm.map Parameter.name
  refine ⟨?_, fun once name listed => ?_⟩
  · rw [repeatedName?_eq_none_iff, repeatedName?_eq_none_iff, names.nodup_iff]
  · have once := repeatedName?_eq_none_iff.mp once
    rw [← valueOf?_heard params listed, ← valueOf?_heard params' listed]
    refine Option.ext fun value => ?_
    rw [valueOf?_eq_some_iff once, valueOf?_eq_some_iff (names.nodup_iff.mp once), perm.mem_iff]

/-! ## Plus signs -/

/-- The parameter that a decoded pair is read as. -/
def Parameter.ofPair (pair : List UInt8 × List UInt8) : Parameter := ⟨lossy pair.1, lossy pair.2⟩

theorem map_plusAsSpace {list : List UInt8} (clean : 43 ∉ list) : list.map plusAsSpace = list := by
  refine (List.map_congr_left fun b member => ?_).trans (List.map_id _)
  have differs : b ≠ 43 := fun same => clean (same ▸ member)
  exact if_neg differs

/-- A name without plus sign was not written with one. -/
theorem clean_of_lossy {list : List UInt8} (clean : '+' ∉ (lossy (Percent.decode list)).toList) :
    43 ∉ list := by
  intro member
  obtain ⟨before, after, rfl⟩ := List.append_of_mem member
  refine clean ?_
  rw [lossy, String.toList_ofList, Percent.decode_append_mark (by decide) (by decide)]
  exact mem_lossyChars (b := 43) (by decide) (by simp)

theorem formText_of_clean {list : List UInt8} (clean : 43 ∉ list) :
    formText list = lossy (Percent.decode list) := by
  rw [formText, map_plusAsSpace clean]

/-- A piece without plus sign is read as it is signed. -/
theorem ofPiece_eq_ofPair {piece : List UInt8} (clean : 43 ∉ piece) :
    Parameter.ofPiece piece = .ofPair (decodedPair piece) := by
  unfold Parameter.ofPiece decodedPair
  rcases clean_or_append 61 piece with whole | ⟨name, value, first, rfl⟩
  · rw [cutAt_eq_none whole]
    dsimp only
    rw [formText_of_clean clean]
    rfl
  · rw [List.mem_append, List.mem_cons, not_or, not_or] at clean
    rw [cutAt_append first]
    dsimp only
    rw [formText_of_clean clean.1, formText_of_clean clean.2.2]
    rfl

/-- A piece that is signed under a name without plus sign is read under that name. -/
theorem name_ofPiece {piece : List UInt8}
    (plain : '+' ∉ (Parameter.ofPair (decodedPair piece)).name.toList) :
    (Parameter.ofPiece piece).name = (Parameter.ofPair (decodedPair piece)).name := by
  unfold Parameter.ofPiece
  unfold Parameter.ofPair decodedPair at plain ⊢
  cases cut : cutAt 61 piece with
  | none =>
      rw [cut] at plain
      exact formText_of_clean (clean_of_lossy plain)
  | some parts =>
      rw [cut] at plain
      exact formText_of_clean (clean_of_lossy plain)

/-- No plus sign stands in what a query says under known names. -/
def PlusFree (known : List String) (query : String) : Prop :=
  ∀ piece, piece ∈ pieces 38 (bytes query) → (Parameter.ofPiece piece).name ∈ known → 43 ∉ piece

instance (known : List String) (query : String) : Decidable (PlusFree known query) :=
  inferInstanceAs (Decidable (∀ piece, piece ∈ pieces 38 (bytes query) →
    (Parameter.ofPiece piece).name ∈ known → 43 ∉ piece))

theorem filter_map_congr {α β : Type} {p : β → Bool} {f g : α → β} {list : List α}
    (agree : ∀ a, a ∈ list → p (f a) ∨ p (g a) → f a = g a) :
    (list.map f).filter p = (list.map g).filter p := by
  induction list with
  | nil => rfl
  | cons a rest ih =>
      have onward := ih fun a' member => agree a' (.tail _ member)
      have here := agree a List.mem_cons_self
      simp only [List.map_cons, List.filter_cons, onward]
      grind

/-- **What is heard under known names is what is signed.** -/
theorem heard_parameters {known : List String} (plain : ∀ name, name ∈ known → '+' ∉ name.toList)
    {query : String} (plusFree : PlusFree known query) :
    heard known (parameters query) = heard known ((decodedPairs query).map .ofPair) := by
  rw [parameters, decodedPairs, List.map_map]
  refine filter_map_congr fun piece member either => ?_
  have sent : piece ∈ pieces 38 (bytes query) := (List.mem_filter.mp member).1
  simp only [List.contains_iff_mem] at either
  -- A plus sign in a name changes the name, so a name can be known on one side alone.
  rcases either with read | signed
  · exact ofPiece_eq_ofPair (plusFree piece sent read)
  · have same := name_ofPiece (plain _ signed)
    exact ofPiece_eq_ofPair (plusFree piece sent (same ▸ signed))

end Http

/-! ## One signature, one reading -/

namespace Server

open Depot.Auth
open Depot.Http
open Depot.Text

/-- The query parameters that an endpoint reads. -/
def Endpoint.queryNames : Endpoint → List String
  | .listObjects _ => S3.listingParameters
  | .putObject _ _ => S3.objectParameters
  | .getObject _ _ => S3.objectParameters
  | .postObject _ _ => S3.objectParameters
  | .deleteObject _ _ => S3.objectParameters
  | _ => []

/-- What a query says under known names, in their order; nothing when it says one of them twice. -/
def reading (known : List String) (query? : Option String) : Option (List (Option String)) :=
  let params := parameters (query?.getD "")
  match repeatedName? known params with
  | some _ => none
  | none => some (known.map (valueOf? params))

theorem reading_nil (query? : Option String) : reading [] query? = some [] := by
  have unheard : heard [] (parameters (query?.getD "")) = [] :=
    List.filter_eq_nil_iff.mpr (by simp)
  have once : repeatedName? [] (parameters (query?.getD "")) = none :=
    repeatedName?_eq_none_iff.mpr (by simp [unheard])
  rw [reading, once]
  rfl

theorem reading_eq {known : List String} (plain : ∀ name, name ∈ known → '+' ∉ name.toList)
    {query? query?' : Option String} (plusFree : PlusFree known (query?.getD ""))
    (plusFree' : PlusFree known (query?'.getD ""))
    (same : canonicalQuery query? = canonicalQuery query?') :
    reading known query? = reading known query?' := by
  have perm : (heard known (parameters (query?.getD ""))).Perm
      (heard known (parameters (query?'.getD ""))) := by
    rw [heard_parameters plain plusFree, heard_parameters plain plusFree']
    exact ((canonicalQuery_eq_iff.mp same).map _).filter _
  obtain ⟨together, values⟩ := heard_perm perm
  unfold reading
  dsimp only
  cases twice : repeatedName? known (parameters (query?.getD "")) with
  | none =>
      rw [together.mp twice]
      exact congrArg some (List.map_congr_left (values twice))
  | some name =>
      cases twice' : repeatedName? known (parameters (query?'.getD "")) with
      | none =>
          rw [together.mpr twice'] at twice
          cases twice
      | some name' => rfl

/-! ### What the endpoints make of it -/

/-- Two lists of parameters say the same under known names. -/
def SayAlike (known : List String) (params params' : List Parameter) : Prop :=
  ∀ name, name ∈ known → valueOf? params name = valueOf? params' name

section

variable {params params' : List Parameter}

theorem S3.listObjects_alike (alike : SayAlike S3.listingParameters params params') (user : User)
    (bucket region : String) :
    S3.listObjects user bucket params region = S3.listObjects user bucket params' region := by
  unfold S3.listObjects S3.readResume S3.listingOf
  simp only [alike "location" (by decide), alike "list-type" (by decide),
    alike "max-keys" (by decide), alike "prefix" (by decide), alike "delimiter" (by decide),
    alike "continuation-token" (by decide), alike "start-after" (by decide),
    alike "marker" (by decide)]

variable (alike : SayAlike S3.objectParameters params params') (user : User) (bucket key : String)

include alike

theorem S3.putObject_alike (headers : Headers) (body : Body) (now : Time.Instant) :
    S3.putObject user bucket key params headers body now =
      S3.putObject user bucket key params' headers body now := by
  unfold S3.putObject
  simp only [alike "uploadId" (by decide), alike "partNumber" (by decide)]

theorem S3.getObject_alike (headers : Headers) :
    S3.getObject user bucket key params headers =
      S3.getObject user bucket key params' headers := by
  unfold S3.getObject
  simp only [alike "uploadId" (by decide)]

theorem S3.postObject_alike (headers : Headers) (body : Body) (now : Time.Instant) :
    S3.postObject user bucket key params headers body now =
      S3.postObject user bucket key params' headers body now := by
  unfold S3.postObject
  simp only [alike "uploadId" (by decide), alike "uploads" (by decide)]

theorem S3.deleteObject_alike :
    S3.deleteObject user bucket key params = S3.deleteObject user bucket key params' := by
  unfold S3.deleteObject
  simp only [alike "uploadId" (by decide)]

end

/-- Query strings of one reading are answered alike, or both refused. -/
theorem withQuery_alike {known : List String} (next : List Parameter → StateM Store Response)
    (hears : ∀ params params', SayAlike known params params' → next params = next params')
    {query? query?' : Option String} (same : reading known query? = reading known query?')
    (target : Target) :
    (reading known query? ≠ none →
      withQuery { target with query? } known next =
        withQuery { target with query? := query?' } known next) ∧
    (reading known query? = none →
      ∃ name name', withQuery { target with query? } known next = pure (repeatedParameter name) ∧
        withQuery { target with query? := query?' } known next =
          pure (repeatedParameter name')) := by
  unfold reading at same ⊢
  unfold withQuery
  dsimp only at same ⊢
  cases twice : repeatedName? known (parameters (query?.getD "")) with
  | none =>
      rw [twice] at same
      cases twice' : repeatedName? known (parameters (query?'.getD "")) with
      | none =>
          rw [twice'] at same
          refine ⟨fun _ => hears _ _ fun name listed => ?_, fun refused => by cases refused⟩
          exact List.map_inj_left.mp (Option.some.inj same) name listed
      | some name' =>
          rw [twice'] at same
          cases same
  | some name =>
      rw [twice] at same
      cases twice' : repeatedName? known (parameters (query?'.getD "")) with
      | none =>
          rw [twice'] at same
          cases same
      | some name' => exact ⟨fun taken => absurd rfl taken, fun _ => ⟨name, name', rfl, rfl⟩⟩

def asking (request : Request) (query? : Option String) : Request :=
  { request with target := { request.target with query? } }

/-- What an endpoint makes of two queries: it answers them alike, or refuses both. -/
theorem answerUser_alike {endpoint : Endpoint} {query? query?' : Option String}
    (same : reading endpoint.queryNames query? = reading endpoint.queryNames query?')
    (settings : Settings) (occasion : Occasion) (request : Request) (body : Body) (user : User) :
    (reading endpoint.queryNames query? ≠ none →
      answerUser settings occasion (asking request query?) body user endpoint =
        answerUser settings occasion (asking request query?') body user endpoint) ∧
    (reading endpoint.queryNames query? = none →
      ∃ name name', answerUser settings occasion (asking request query?) body user endpoint =
          pure (repeatedParameter name) ∧
        answerUser settings occasion (asking request query?') body user endpoint =
          pure (repeatedParameter name')) := by
  cases endpoint with
  | listObjects bucket =>
      refine withQuery_alike
        (fun params => answerS3 occasion
          (S3.listObjects user bucket params settings.verifier.region)) ?_ same request.target
      intro params params' alike
      rw [S3.listObjects_alike alike]
  | putObject bucket key =>
      refine withQuery_alike
        (fun params => answerS3 occasion
          (S3.putObject user bucket key params request.headers body occasion.now)) ?_ same
        request.target
      intro params params' alike
      rw [S3.putObject_alike alike]
  | getObject bucket key =>
      refine withQuery_alike
        (fun params => answerS3 occasion (S3.getObject user bucket key params request.headers)) ?_
        same request.target
      intro params params' alike
      rw [S3.getObject_alike alike]
  | postObject bucket key =>
      refine withQuery_alike
        (fun params => answerS3 occasion
          (S3.postObject user bucket key params request.headers body occasion.now)) ?_ same
        request.target
      intro params params' alike
      rw [S3.postObject_alike alike]
  | deleteObject bucket key =>
      refine withQuery_alike
        (fun params => answerS3 occasion (S3.deleteObject user bucket key params)) ?_ same
        request.target
      intro params params' alike
      rw [S3.deleteObject_alike alike]
  | _ => exact ⟨fun _ => rfl, fun refused => by simp [Endpoint.queryNames, reading_nil] at refused⟩

/-- The canonical form of the query is all that a signature covers of it. -/
theorem verify_eq_of_canonicalQuery {query? query?' : Option String}
    (same : canonicalQuery query? = canonicalQuery query?') (verifier : Verifier) (method : String)
    (target : Target) (headers : Headers) (payloadHash : String) (now : Time.Instant) :
    verifier.verify ⟨method, { target with query? }, headers, payloadHash⟩ now =
      verifier.verify ⟨method, { target with query? := query?' }, headers, payloadHash⟩ now := by
  have canonical (signedHeaders : List String) :
      canonicalRequest method { target with query? } headers signedHeaders payloadHash =
        canonicalRequest method { target with query? := query?' } headers signedHeaders
          payloadHash := by
    unfold canonicalRequest
    rw [same]
    rfl
  unfold Verifier.verify
  simp only [canonical]

theorem plain_queryNames (endpoint : Endpoint) :
    ∀ name, name ∈ endpoint.queryNames → '+' ∉ name.toList := by
  have every : ∀ known, known ∈ [S3.listingParameters, S3.objectParameters, []] →
      ∀ name, name ∈ known → '+' ∉ name.toList := by decide
  exact every endpoint.queryNames (by cases endpoint <;> simp [Endpoint.queryNames])

/-- **A signature over a query without plus signs authorises one reading.**  Whoever verifies a
signature for one of two queries with the same canonical form verifies it for the other.  Every
endpoint in whose parameters no plus sign stands for itself reads the same values from both, or
refuses both because a parameter stands twice, and answers them accordingly. -/
theorem reading_eq_of_canonicalQuery {endpoint : Endpoint} {query? query?' : Option String}
    (plusFree : PlusFree endpoint.queryNames (query?.getD ""))
    (plusFree' : PlusFree endpoint.queryNames (query?'.getD ""))
    (same : canonicalQuery query? = canonicalQuery query?') :
    (∀ (verifier : Verifier) (method : String) (target : Target) (headers : Headers)
      (payloadHash : String) (now : Time.Instant),
      verifier.verify ⟨method, { target with query? }, headers, payloadHash⟩ now =
        verifier.verify ⟨method, { target with query? := query?' }, headers, payloadHash⟩ now) ∧
      reading endpoint.queryNames query? = reading endpoint.queryNames query?' ∧
      ∀ (settings : Settings) (occasion : Occasion) (request : Request) (body : Body) (user : User),
        (reading endpoint.queryNames query? ≠ none →
          answerUser settings occasion (asking request query?) body user endpoint =
            answerUser settings occasion (asking request query?') body user endpoint) ∧
        (reading endpoint.queryNames query? = none →
          ∃ name name',
            answerUser settings occasion (asking request query?) body user endpoint =
              pure (repeatedParameter name) ∧
            answerUser settings occasion (asking request query?') body user endpoint =
              pure (repeatedParameter name')) := by
  have alike := reading_eq (plain_queryNames endpoint) plusFree plusFree' same
  exact ⟨verify_eq_of_canonicalQuery same, alike, answerUser_alike alike⟩

/-- Another order of the pairs, an empty piece, an escaped letter and a missing equals sign say the
same to a listing, and a plus sign does no harm where the listing does not read it. -/
theorem reading_of_other_spelling :
    let query? := some "prefix=a%2Bb&x=1%2B1&location"
    let query?' := some "&location=&prefi%78=%61%2bb&x=1+1"
    PlusFree (Endpoint.listObjects "box").queryNames (query?.getD "") ∧
      PlusFree (Endpoint.listObjects "box").queryNames (query?'.getD "") ∧
      canonicalQuery query? = canonicalQuery query?' ∧
      reading (Endpoint.listObjects "box").queryNames query? =
        reading (Endpoint.listObjects "box").queryNames query?' := by
  intro query? query?'
  have plusFree : PlusFree (Endpoint.listObjects "box").queryNames (query?.getD "") := by
    decide
  have plusFree' : PlusFree (Endpoint.listObjects "box").queryNames (query?'.getD "") := by
    decide
  have same : canonicalQuery query? = canonicalQuery query?' :=
    canonicalQuery_eq_iff.mpr (by decide)
  exact ⟨plusFree, plusFree', same, (reading_eq_of_canonicalQuery plusFree plusFree' same).2.1⟩

/-- Two listings share a signature when it is a plus sign that tells their prefixes apart. -/
example :
    canonicalQuery (some "prefix=a%2Bb") = canonicalQuery (some "prefix=a+b") ∧
      reading ["prefix"] (some "prefix=a%2Bb") = some [some "a+b"] ∧
      reading ["prefix"] (some "prefix=a+b") = some [some "a b"] :=
  ⟨canonicalQuery_eq_iff.mpr (by decide), by decide, by decide⟩

end Server

end Depot
