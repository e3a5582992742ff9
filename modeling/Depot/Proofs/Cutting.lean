import Depot.Proofs.Names
import Depot.Text.Utf8
import Mathlib.Data.List.Basic

/-!
# Texts cut and put together

What is put together with a separator is cut into the same parts again, when the
parts do not contain the separator.  A text is determined by its bytes, and its
bytes are those of its parts.
-/

namespace Depot

set_option autoImplicit false

namespace Text

/-! ## Cutting at a separator -/

section

variable {α : Type} [BEq α] [LawfulBEq α]

theorem cutAt_cons_self (sep : α) (rest : List α) : cutAt sep (sep :: rest) = some ([], rest) := by
  simp [cutAt, cutWhere]

theorem cutAt_cons_of_ne {sep a : α} (differs : a ≠ sep) (rest : List α) :
    cutAt sep (a :: rest) = (cutAt sep rest).map fun (before, after) => (a :: before, after) := by
  simp [cutAt, cutWhere, differs]

/-- A cut is made where the separator stands first. -/
theorem cutAt_append {sep : α} {before : List α} (clean : sep ∉ before) (after : List α) :
    cutAt sep (before ++ sep :: after) = some (before, after) := by
  induction before with
  | nil => exact cutAt_cons_self sep after
  | cons a rest ih =>
      have differs := List.ne_of_not_mem_cons clean
      have clean := List.not_mem_of_not_mem_cons clean
      rw [List.cons_append, cutAt_cons_of_ne (Ne.symm differs), ih clean]
      rfl

theorem cutAt_eq_none {sep : α} {text : List α} (clean : sep ∉ text) : cutAt sep text = none := by
  induction text with
  | nil => rfl
  | cons a rest ih =>
      have differs := List.ne_of_not_mem_cons clean
      have clean := List.not_mem_of_not_mem_cons clean
      rw [cutAt_cons_of_ne (Ne.symm differs), ih clean]
      rfl

/-- A text has no separator, or is what its first one separates. -/
theorem clean_or_append (sep : α) (text : List α) :
    sep ∉ text ∨ ∃ before after, sep ∉ before ∧ text = before ++ sep :: after := by
  by_cases member : sep ∈ text
  · obtain ⟨before, after, whole, clean⟩ := List.eq_append_cons_of_mem member
    exact .inr ⟨before, after, clean, whole⟩
  · exact .inl member

theorem pieces_eq_singleton {sep : α} {text : List α} (clean : sep ∉ text) :
    pieces sep text = [text] := by
  induction text with
  | nil => rfl
  | cons a rest ih =>
      have differs := List.ne_of_not_mem_cons clean
      have clean := List.not_mem_of_not_mem_cons clean
      rw [pieces, if_neg (by simpa using Ne.symm differs), ih clean]

theorem pieces_append {sep : α} {before : List α} (clean : sep ∉ before) (after : List α) :
    pieces sep (before ++ sep :: after) = before :: pieces sep after := by
  induction before with
  | nil => simp [pieces]
  | cons a rest ih =>
      have differs := List.ne_of_not_mem_cons clean
      have clean := List.not_mem_of_not_mem_cons clean
      rw [List.cons_append, pieces, if_neg (by simpa using Ne.symm differs), ih clean]

theorem afterLead?_eq_some_iff {lead text rest : List α} :
    afterLead? lead text = some rest ↔ text = lead ++ rest :=
  List.isPrefixOf?_eq_some_iff_append_eq.trans eq_comm

theorem afterLead?_append (lead rest : List α) : afterLead? lead (lead ++ rest) = some rest :=
  afterLead?_eq_some_iff.mpr rfl

/-- Texts that are joined by a separator which they do not contain are its pieces. -/
theorem pieces_intercalate {sep : α} {texts : List (List α)} (some : texts ≠ [])
    (clean : ∀ text, text ∈ texts → sep ∉ text) : pieces sep ([sep].intercalate texts) = texts := by
  induction texts with
  | nil => exact absurd rfl some
  | cons first rest ih =>
      have here := clean first List.mem_cons_self
      cases rest with
      | nil => rw [List.intercalate_singleton, pieces_eq_singleton here]
      | cons second more =>
          have onward := ih (by simp) fun text member => clean text (.tail _ member)
          rw [List.intercalate_cons_cons, List.append_assoc, List.singleton_append,
            pieces_append here, onward]

/-- The pieces of a text are the text again when they are joined. -/
theorem intercalate_pieces (sep : α) (text : List α) :
    [sep].intercalate (pieces sep text) = text := by
  induction text with
  | nil => rfl
  | cons a rest ih =>
      obtain ⟨piece, more, cut⟩ := List.exists_cons_of_ne_nil (pieces_ne_nil sep rest)
      rw [pieces, cut]
      rw [cut] at ih
      split
      · next same => rw [List.intercalate_cons_cons, ih, eq_of_beq same]; rfl
      · dsimp only
        cases more with
        | nil =>
            rw [List.intercalate_singleton] at ih ⊢
            rw [ih]
        | cons second later =>
            rw [List.intercalate_cons_cons] at ih ⊢
            rw [← ih]
            rfl

end

/-! ## Cutting at a word -/

section

variable {α : Type} [BEq α] [LawfulBEq α]

omit [LawfulBEq α] in
theorem cutAtWordFrom_eq (word passed text : List α) :
    cutAtWordFrom word passed text =
      (cutAtWord word text).map fun (before, after) => (passed.reverse ++ before, after) := by
  induction text generalizing passed with
  | nil =>
      unfold cutAtWord cutAtWordFrom
      split <;> simp
  | cons a rest ih =>
      unfold cutAtWord cutAtWordFrom
      cases word.isPrefixOf? (a :: rest) with
      | some after => simp
      | none =>
          rw [ih (a :: passed), ih [a], Option.map_map]
          simp [Function.comp_def]

omit [LawfulBEq α] in
theorem cutAtWord_nil (word : List α) :
    cutAtWord word [] = if word.isEmpty then some ([], []) else none := rfl

omit [LawfulBEq α] in
/-- A word is looked for at the front and then after the first element. -/
theorem cutAtWord_cons (word : List α) (a : α) (rest : List α) :
    cutAtWord word (a :: rest) =
      match afterLead? word (a :: rest) with
      | some after => some ([], after)
      | none => (cutAtWord word rest).map fun (before, after) => (a :: before, after) := by
  show cutAtWordFrom word [] (a :: rest) = _
  unfold afterLead? cutAtWordFrom
  cases word.isPrefixOf? (a :: rest) with
  | some after => rfl
  | none => exact cutAtWordFrom_eq word [a] rest

theorem cutAtWord_append_word (word after : List α) :
    cutAtWord word (word ++ after) = some ([], after) := by
  cases whole : word ++ after with
  | nil =>
      obtain ⟨rfl, rfl⟩ := List.append_eq_nil_iff.mp whole
      rfl
  | cons a rest =>
      rw [cutAtWord_cons, ← whole, afterLead?_append]

/-- A text as it is cut at the first occurrence of a word. -/
structure FirstAt (word text before after : List α) : Prop where
  whole : text = before ++ word ++ after
  first : ∀ before' after', text = before' ++ word ++ after' → before.length ≤ before'.length

omit [BEq α] [LawfulBEq α] in
theorem FirstAt.unique {word text before after before' after' : List α}
    (cut : FirstAt word text before after) (cut' : FirstAt word text before' after') :
    before = before' ∧ after = after' := by
  have same : before.length = before'.length :=
    Nat.le_antisymm (cut.first _ _ cut'.whole) (cut'.first _ _ cut.whole)
  have whole : before ++ (word ++ after) = before' ++ (word ++ after') := by
    rw [← List.append_assoc, ← List.append_assoc, ← cut.whole, cut'.whole]
  obtain ⟨front, back⟩ := List.append_inj whole same
  exact ⟨front, List.append_cancel_left back⟩

theorem cutAtWord_cases (word text : List α) :
    match cutAtWord word text with
    | some (before, after) => FirstAt word text before after
    | none => ∀ before after, text ≠ before ++ word ++ after := by
  induction text with
  | nil =>
      cases word with
      | nil => exact ⟨rfl, fun _ _ _ => Nat.zero_le _⟩
      | cons a more => simp [cutAtWord_nil]
  | cons a rest ih =>
      rw [cutAtWord_cons]
      cases here : afterLead? word (a :: rest) with
      | some after => exact ⟨afterLead?_eq_some_iff.mp here, fun _ _ _ => Nat.zero_le _⟩
      | none =>
          have later {before after : List α} (whole : a :: rest = before ++ word ++ after) :
              ∃ before', before = a :: before' ∧ rest = before' ++ word ++ after := by
            cases before with
            | nil => cases here.symm.trans (afterLead?_eq_some_iff.mpr whole)
            | cons b before' =>
                cases whole
                exact ⟨before', rfl, rfl⟩
          cases there : cutAtWord word rest with
          | none =>
              rw [there] at ih
              intro before after whole
              obtain ⟨before', -, onward⟩ := later whole
              exact ih before' after onward
          | some parts =>
              obtain ⟨before, after⟩ := parts
              rw [there] at ih
              refine ⟨congrArg (a :: ·) ih.whole, fun before' after' whole => ?_⟩
              obtain ⟨before'', rfl, onward⟩ := later whole
              exact Nat.succ_le_succ (ih.first before'' after' onward)

/-- **A word is found where it occurs first.** -/
theorem cutAtWord_eq_some_iff {word text before after : List α} :
    cutAtWord word text = some (before, after) ↔ FirstAt word text before after := by
  have cut := cutAtWord_cases word text
  cases found : cutAtWord word text with
  | none =>
      rw [found] at cut
      exact iff_of_false (by simp) fun here => cut before after here.whole
  | some parts =>
      rw [found] at cut
      constructor
      · rintro ⟨⟩
        exact cut
      · intro here
        obtain ⟨rfl, rfl⟩ := here.unique cut
        rfl

/-- A word that does not occur is not found. -/
theorem cutAtWord_eq_none_iff {word text : List α} :
    cutAtWord word text = none ↔ ∀ before after, text ≠ before ++ word ++ after := by
  have cut := cutAtWord_cases word text
  cases found : cutAtWord word text with
  | none =>
      rw [found] at cut
      exact iff_of_true rfl cut
  | some parts =>
      rw [found] at cut
      exact iff_of_false (by simp) fun absent => absent _ _ cut.whole

/-- A text has the words that occur in it. -/
theorem hasWord_iff {word text : List α} :
    hasWord word text = true ↔ ∃ before after, text = before ++ word ++ after := by
  rw [hasWord, Option.isSome_iff_ne_none, ne_eq, cutAtWord_eq_none_iff]
  simp only [not_forall, ne_eq, not_not]

end

/-! ## Trimming -/

section

variable {α : Type} {p : α → Bool}

theorem dropWhile_eq_self {text : List α} (stays : ∀ a, text.head? = some a → p a = false) :
    text.dropWhile p = text := by
  cases text with
  | nil => rfl
  | cons a rest => rw [List.dropWhile_cons_of_neg (by simp [stays a rfl])]

/-- A text with nothing to be trimmed at its ends stays as it is. -/
theorem trim_eq_self {text : List α} (first : ∀ a, text.head? = some a → p a = false)
    (last : ∀ a, text.getLast? = some a → p a = false) : trim p text = text := by
  unfold trim trimEnd trimStart
  rw [dropWhile_eq_self first, dropWhile_eq_self (by simpa using last), List.reverse_reverse]

theorem trim_eq_self_of_forall {text : List α} (stays : ∀ a, a ∈ text → p a = false) :
    trim p text = text := by
  apply trim_eq_self
  · intro a leads
    exact stays a (List.mem_of_head? leads)
  · intro a ends
    exact stays a (List.mem_of_getLast? ends)

theorem dropWhile_flatMap {β : Type} {q : β → Bool} {f : α → List β}
    (passes : ∀ a, p a = true → ∃ b, f a = [b] ∧ q b = true)
    (stops : ∀ a, p a = false → ∃ b, (f a).head? = some b ∧ q b = false) (text : List α) :
    (text.flatMap f).dropWhile q = (text.dropWhile p).flatMap f := by
  induction text with
  | nil => rfl
  | cons a rest ih =>
      cases here : p a with
      | true =>
          obtain ⟨b, single, passed⟩ := passes a here
          rw [List.dropWhile_cons_of_pos here, List.flatMap_cons, single, List.singleton_append,
            List.dropWhile_cons_of_pos passed, ih]
      | false =>
          obtain ⟨b, first, stopped⟩ := stops a here
          rw [List.dropWhile_cons_of_neg (by simp [here])]
          refine dropWhile_eq_self fun c leads => ?_
          rw [List.flatMap_cons, List.head?_append, first, Option.some_or] at leads
          obtain rfl := Option.some.inj leads
          exact stopped

/-- Trimming what is written for each element of a text is trimming the text, when what is trimmed
is written as one and anything else has ends that stay. -/
theorem trim_flatMap {β : Type} {q : β → Bool} {f : α → List β}
    (passes : ∀ a, p a = true → ∃ b, f a = [b] ∧ q b = true)
    (opens : ∀ a, p a = false → ∃ b, (f a).head? = some b ∧ q b = false)
    (closes : ∀ a, p a = false → ∃ b, (f a).getLast? = some b ∧ q b = false) (text : List α) :
    trim q (text.flatMap f) = (trim p text).flatMap f := by
  have backward := dropWhile_flatMap (f := List.reverse ∘ f)
    (fun a trimmed => by simpa using passes a trimmed)
    (fun a stays => by simpa using closes a stays) (text.dropWhile p).reverse
  unfold trim trimEnd trimStart
  rw [dropWhile_flatMap passes opens, List.reverse_flatMap, backward, List.reverse_flatMap]
  refine List.flatMap_congr fun a _ => ?_
  exact List.reverse_reverse (f a)

end

/-! ## ASCII characters -/

/-- What holds of every ASCII character, checked one by one. -/
@[elab_as_elim]
theorem of_ascii {P : Char → Prop} (every : ∀ n : Fin 128, P (Char.ofNat n)) {c : Char}
    (ascii : c.toNat < 128) : P c := by
  have whole := every ⟨c.toNat, ascii⟩
  rwa [Char.ofNat_toNat] at whole

theorem ascii_of_le {c last : Char} (below : c ≤ last) (ascii : last.toNat < 128) :
    c.toNat < 128 :=
  Nat.lt_of_le_of_lt below ascii

theorem ascii_of_isDigit {c : Char} (digit : c.isDigit) : c.toNat < 128 := by
  have range : '0' ≤ c ∧ c ≤ '9' := by simpa [Char.isDigit, Char.le_def] using digit
  exact ascii_of_le range.2 (by decide)

theorem isBlank_of_isDigit {c : Char} (digit : c.isDigit) : isBlank c = false := by
  have ascii : c.toNat < 128 := ascii_of_isDigit digit
  revert digit
  exact of_ascii (by decide) ascii

theorem ascii_of_isAlphanum {c : Char} (alphanum : c.isAlphanum) : c.toNat < 128 := by
  obtain alpha | digit := Bool.or_eq_true_iff.mp alphanum
  · obtain capital | small := Bool.or_eq_true_iff.mp alpha
    · have below : c ≤ 'Z' := (of_decide_eq_true capital).2
      exact ascii_of_le below (by decide)
    · have below : c ≤ 'z' := of_decide_eq_true (Bool.and_eq_true_iff.mp small).2
      exact ascii_of_le below (by decide)
  · exact ascii_of_isDigit digit

theorem toLower_toLower (c : Char) : c.toLower.toLower = c.toLower := by
  by_cases ascii : c.toNat < 128
  · exact of_ascii (by decide) ascii
  · have kept : c.toLower = c := by
      refine dif_neg fun capital => ascii ?_
      have below : c ≤ 'Z' := capital.2
      exact ascii_of_le below (by decide)
    rw [kept, kept]

theorem lower_lower (text : String) : lower (lower text) = lower text := by
  rw [lower, lower, String.toList_ofList, List.map_map]
  congr 2
  funext c
  exact toLower_toLower c

/-! ## Bytes -/

theorem bytes_append (a b : String) : bytes (a ++ b) = bytes a ++ bytes b := by
  simp [bytes]

theorem bytes_inj {a b : String} (same : bytes a = bytes b) : a = b := by
  have read := ofBytes?_bytes a
  rw [same, ofBytes?_bytes] at read
  exact (Option.some.inj read).symm

/-- A text of ASCII characters has their codes as its bytes. -/
theorem bytes_ascii {list : List UInt8} (ascii : ∀ b, b ∈ list → b < 128) :
    bytes (String.ofList (list.map Char.ofUInt8)) = list := by
  induction list with
  | nil => rfl
  | cons b rest ih =>
      have single : bytes (String.ofList [Char.ofUInt8 b]) = [b] := by
        have every : ∀ n : Fin 128, bytes (String.ofList [Char.ofUInt8 (UInt8.ofNat n)]) =
            [UInt8.ofNat n] := by decide
        have small : b.toNat < 128 := ascii b List.mem_cons_self
        have whole := every ⟨b.toNat, small⟩
        rwa [UInt8.ofNat_toNat] at whole
      have first : String.ofList ((b :: rest).map Char.ofUInt8) =
          String.ofList [Char.ofUInt8 b] ++ String.ofList (rest.map Char.ofUInt8) := by
        rw [← String.ofList_append]
        rfl
      rw [first, bytes_append, single, ih fun b' member => ascii b' (.tail _ member)]
      rfl

end Text

end Depot
