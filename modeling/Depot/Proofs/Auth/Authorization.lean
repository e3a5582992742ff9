import Depot.Auth.Authorization
import Depot.Proofs.Cutting
import Depot.Proofs.Results

/-!
# Authorizations are read as they are written

The value of an authorization header names its components, which commas
separate; the scope is separated by slashes and the signed headers by
semicolons.  When no component contains the separators, the value is read as
the authorization that it was written from (`ofText_text`).
-/

namespace Depot.Auth

set_option autoImplicit false

open Depot.Text

/-- An authorization that can be read again. -/
structure Authorization.Legible (a : Authorization) : Prop where
  accessKey : a.scope.accessKey ≠ ""
  scope : ∀ text, text ∈ [a.scope.accessKey, a.scope.date, a.scope.region, a.scope.service] →
    ',' ∉ text.toList ∧ '/' ∉ text.toList
  signedHeaders : a.signedHeaders ≠ []
  names : ∀ name, name ∈ a.signedHeaders →
    name ≠ "" ∧ lower name = name ∧
      ∀ c, c ∈ name.toList → c ≠ ',' ∧ c ≠ ';' ∧ isBlank c = false
  signature : Hex.isDigest a.signature
  small : lower a.signature = a.signature

namespace Authorization

/-! ## Components -/

def credentialText (a : Authorization) : String := a.scope.accessKey ++ "/" ++ a.scope.text

theorem toList_text (a : Authorization) :
    a.text.toList = algorithm.toList ++
      (' ' :: ("Credential".toList ++ '=' :: a.credentialText.toList)) ++ ',' ::
        ((' ' :: ("SignedHeaders".toList ++ '=' :: (joined ";" a.signedHeaders).toList)) ++ ',' ::
          (' ' :: ("Signature".toList ++ '=' :: a.signature.toList))) := by
  have credential : " Credential=".toList = ' ' :: ("Credential".toList ++ ['=']) := by decide
  have signedHeaders : ", SignedHeaders=".toList =
      ',' :: ' ' :: ("SignedHeaders".toList ++ ['=']) := by decide
  have signature : ", Signature=".toList = ',' :: ' ' :: ("Signature".toList ++ ['=']) := by decide
  simp only [text, credentialText, String.toList_append, credential, signedHeaders, signature,
    List.append_assoc, List.cons_append, List.nil_append]

theorem component_append {name : String} (clean : '=' ∉ name.toList) (value : String) :
    component (name.toList ++ '=' :: value.toList) = .ok (name, value) := by
  rw [component, cutAt_append clean]
  dsimp only
  rw [String.ofList_toList, String.ofList_toList]

/-- A blank before a component is trimmed, and nothing else when the component ends in none. -/
theorem trimBlank_component {name value : String}
    (first : name.toList.head?.any isBlank = false) (named : name ≠ "")
    (last : ∀ c, value.toList.getLast? = some c → isBlank c = false) :
    trimBlank (' ' :: (name.toList ++ '=' :: value.toList)) =
      name.toList ++ '=' :: value.toList := by
  have blank : trimBlank (' ' :: (name.toList ++ '=' :: value.toList)) =
      trimBlank (name.toList ++ '=' :: value.toList) := by
    unfold trimBlank trim trimStart
    rw [List.dropWhile_cons_of_pos (by decide)]
  rw [blank]
  refine trim_eq_self ?_ ?_
  · intro c found
    cases begins : name.toList.head? with
    | none => exact absurd (by simpa using begins) named
    | some d =>
        rw [List.head?_append, begins] at found
        cases found
        rw [begins] at first
        exact first
  · intro c found
    rw [List.getLast?_append, List.getLast?_cons] at found
    cases ends : value.toList.getLast? with
    | none =>
        rw [ends] at found
        cases found
        decide
    | some d =>
        rw [ends] at found
        cases found
        exact last _ ends

/-- A value that commas separate from others: it has none, and no blank at its end. -/
structure Separable (value : String) : Prop where
  comma : ',' ∉ value.toList
  ends : ∀ c, value.toList.getLast? = some c → isBlank c = false

theorem Separable.of_all {value : String}
    (all : ∀ c, c ∈ value.toList → isBlank c = false ∧ c ≠ ',') : Separable value where
  comma member := (all ',' member).2 rfl
  ends c found := (all c (List.mem_of_getLast? found)).1

/-- The components of an authorization are cut at the commas between them. -/
theorem components_text {credential signedHeaders signature : String}
    (first : Separable credential) (second : Separable signedHeaders)
    (third : Separable signature) :
    components
        ((' ' :: ("Credential".toList ++ '=' :: credential.toList)) ++ ',' ::
          ((' ' :: ("SignedHeaders".toList ++ '=' :: signedHeaders.toList)) ++ ',' ::
            (' ' :: ("Signature".toList ++ '=' :: signature.toList)))) =
      .ok [("Credential", credential), ("SignedHeaders", signedHeaders),
        ("Signature", signature)] := by
  have whole {name value : String} (clean : ',' ∉ value.toList) (own : ',' ∉ name.toList) :
      ',' ∉ ' ' :: (name.toList ++ '=' :: value.toList) := by
    simp [clean, own]
  unfold components
  rw [pieces_append (whole first.comma (by decide)), pieces_append (whole second.comma (by decide)),
    pieces_eq_singleton (whole third.comma (by decide))]
  simp only [List.map_cons, List.map_nil]
  rw [trimBlank_component (by decide) (by decide) first.ends,
    trimBlank_component (by decide) (by decide) second.ends,
    trimBlank_component (by decide) (by decide) third.ends]
  have filled (name value : String) : (name.toList ++ '=' :: value.toList).isEmpty = false := by
    cases name.toList <;> rfl
  simp only [List.filter_cons, List.filter_nil, filled, Bool.not_false, if_true]
  rw [List.mapM_cons, List.mapM_cons, List.mapM_cons, component_append (by decide),
    component_append (by decide), component_append (by decide)]
  rfl

/-! ## Scope and signed headers -/

theorem readScope_credentialText {a : Authorization} (legible : a.Legible) :
    readScope a.credentialText =
      .ok a.scope := by
  obtain ⟨⟨-, accessKey⟩, ⟨-, date⟩, ⟨-, region⟩, ⟨-, service⟩⟩ :
      (',' ∉ a.scope.accessKey.toList ∧ '/' ∉ a.scope.accessKey.toList) ∧
        (',' ∉ a.scope.date.toList ∧ '/' ∉ a.scope.date.toList) ∧
        (',' ∉ a.scope.region.toList ∧ '/' ∉ a.scope.region.toList) ∧
        (',' ∉ a.scope.service.toList ∧ '/' ∉ a.scope.service.toList) := by
    simpa using legible.scope
  have parts : a.credentialText.toList = a.scope.accessKey.toList ++ '/' ::
      (a.scope.date.toList ++ '/' :: (a.scope.region.toList ++ '/' ::
        (a.scope.service.toList ++ '/' :: terminator.toList))) := by
    have slash : "/".toList = ['/'] := rfl
    simp only [credentialText, Scope.text, String.toList_append, slash, List.append_assoc,
      List.cons_append, List.nil_append]
  unfold readScope stringPieces
  rw [parts, pieces_append accessKey, pieces_append date, pieces_append region,
    pieces_append service, pieces_eq_singleton (by decide)]
  simp [legible.accessKey]

theorem toList_joined (sep : Char) (texts : List String) :
    (joined (String.ofList [sep]) texts).toList = [sep].intercalate (texts.map String.toList) := by
  rw [joined, String.toList_ofList, String.toList_ofList]

theorem readSignedHeaders_joined {a : Authorization} (legible : a.Legible) :
    readSignedHeaders (joined ";" a.signedHeaders) = a.signedHeaders := by
  have clean : ∀ text, text ∈ a.signedHeaders.map String.toList → ';' ∉ text := by
    intro text member here
    obtain ⟨name, known, rfl⟩ := List.mem_map.mp member
    exact ((legible.names name known).2.2 ';' here).2.1 rfl
  have cut :
      pieces ';' (joined ";" a.signedHeaders).toList = a.signedHeaders.map String.toList := by
    have whole := toList_joined ';' a.signedHeaders
    have some : a.signedHeaders.map String.toList ≠ [] := by simp [legible.signedHeaders]
    rw [← pieces_intercalate some clean, ← whole]
  have filled : a.signedHeaders.filter (!·.isEmpty) = a.signedHeaders := by
    refine List.filter_eq_self.mpr fun name known => ?_
    simp [(legible.names name known).1]
  have small : a.signedHeaders.map lower = a.signedHeaders := by
    refine List.map_congr_left (fun name known => (legible.names name known).2.1) |>.trans ?_
    simp
  unfold readSignedHeaders stringPieces
  rw [cut, List.map_map]
  simp [Function.comp_def, filled, small]

/-! ## The whole value -/

theorem mem_intercalate {α : Type} {sep c : α} {texts : List (List α)}
    (member : c ∈ [sep].intercalate texts) : c = sep ∨ ∃ text, text ∈ texts ∧ c ∈ text := by
  induction texts with
  | nil => cases member
  | cons first rest ih =>
      cases rest with
      | nil =>
          rw [List.intercalate_singleton] at member
          exact .inr ⟨first, List.mem_cons_self, member⟩
      | cons second more =>
          rw [List.intercalate_cons_cons, List.mem_append, List.mem_append] at member
          rcases member with (here | here) | later
          · exact .inr ⟨first, List.mem_cons_self, here⟩
          · exact .inl (List.mem_singleton.mp here)
          · exact (ih later).imp id fun ⟨text, known, here⟩ => ⟨text, .tail _ known, here⟩

theorem ascii_of_hexDigit {c : Char} (digit : Hex.isDigit c) : c.toNat < 128 := by
  unfold Hex.isDigit Hex.value? at digit
  split at digit
  · next range => exact ascii_of_le range.2 (by decide)
  · split at digit
    · next range => exact ascii_of_le range.2 (by decide)
    · split at digit
      · next range => exact ascii_of_le range.2 (by decide)
      · cases digit

/-- A hexadecimal digit is neither a blank nor a comma. -/
theorem of_isDigit {c : Char} (digit : Hex.isDigit c) : isBlank c = false ∧ c ≠ ',' := by
  have ascii := ascii_of_hexDigit digit
  revert digit
  exact of_ascii (by decide) ascii

theorem separable_credentialText {a : Authorization} (legible : a.Legible) :
    Separable a.credentialText := by
  have parts : a.credentialText.toList = (a.scope.accessKey ++ "/" ++ a.scope.date ++ "/" ++
      a.scope.region ++ "/" ++ a.scope.service ++ "/").toList ++ terminator.toList := by
    simp [credentialText, Scope.text]
  have ends : terminator.toList.getLast? = some 't' := by decide
  have clean := legible.scope
  simp only [List.mem_cons, List.not_mem_nil, or_false, forall_eq_or_imp, forall_eq] at clean
  constructor
  · have comma : ',' ∉ "/".toList ∧ ',' ∉ terminator.toList := by decide
    rw [parts]
    simp only [String.toList_append, List.mem_append, clean, comma, or_self, not_false_eq_true]
  · intro c found
    rw [parts, List.getLast?_append, ends] at found
    cases found
    decide

theorem separable_signedHeaders {a : Authorization} (legible : a.Legible) :
    Separable (joined ";" a.signedHeaders) := by
  refine .of_all fun c member => ?_
  have whole := toList_joined ';' a.signedHeaders
  rcases mem_intercalate (whole ▸ member) with rfl | ⟨text, known, here⟩
  · decide
  · obtain ⟨name, listed, rfl⟩ := List.mem_map.mp known
    obtain ⟨comma, -, blank⟩ := (legible.names name listed).2.2 c here
    exact ⟨blank, comma⟩

theorem separable_signature {a : Authorization} (legible : a.Legible) :
    Separable a.signature := by
  refine .of_all fun c member => ?_
  have shape := legible.signature
  rw [Hex.isDigest, Bool.and_eq_true, List.all_eq_true] at shape
  exact of_isDigit (shape.2 c member)

/-- **An authorization is read as it was written.** -/
theorem ofText_text {a : Authorization} (legible : a.Legible) : ofText a.text = .ok a := by
  have parts := components_text (separable_credentialText legible)
    (separable_signedHeaders legible) (separable_signature legible)
  unfold ofText
  rw [toList_text, List.append_assoc, afterLead?_append, List.cons_append]
  rw [List.cons_append] at parts
  have found (credential signedHeaders signature : String) :
      let components := [("Credential", credential), ("SignedHeaders", signedHeaders),
        ("Signature", signature)]
      lastOf? components "Credential" = some credential ∧
        lastOf? components "SignedHeaders" = some signedHeaders ∧
        lastOf? components "Signature" = some signature := ⟨rfl, rfl, rfl⟩
  obtain ⟨first, second, third⟩ :=
    found a.credentialText (joined ";" a.signedHeaders) a.signature
  have listed : a.signedHeaders.isEmpty = false := by simp [legible.signedHeaders]
  split
  · next rest same =>
      cases same
      rw [parts]
      simp only [bind, Except.bind, first, second, third, require,
        readScope_credentialText legible, readSignedHeaders_joined legible, listed,
        legible.signature, legible.small]
      rfl
  · next other => exact absurd rfl (other _)

/-- A signature is read in lower case. -/
theorem lower_signature {text : String} {a : Authorization} (read : ofText text = .ok a) :
    lower a.signature = a.signature := by
  unfold ofText at read
  split at read
  · obtain ⟨components, -, read⟩ := Results.bind_eq_ok_iff.mp read
    obtain ⟨credential, -, read⟩ := Results.bind_eq_ok_iff.mp read
    obtain ⟨scope, -, read⟩ := Results.bind_eq_ok_iff.mp read
    obtain ⟨names, -, read⟩ := Results.bind_eq_ok_iff.mp read
    dsimp only at read
    split at read
    · cases read
    · obtain ⟨signature, -, read⟩ := Results.bind_eq_ok_iff.mp read
      split at read
      · cases read
        exact lower_lower signature
      · cases read
  · cases read

end Authorization

end Depot.Auth
