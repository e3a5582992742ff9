import Depot.Proofs.Cutting

/-!
# The order of texts

Texts are compared character by character.  Between a text and its extensions
there are only extensions of it (`isPrefix_of_between`), and the order is that
of the bytes (`bytes_lt_iff`).
-/

namespace Depot.Text

set_option autoImplicit false

/-! ## Beginnings -/

theorem append_lt_append_iff {α : Type} [LT α] [Std.Irrefl (fun a b : α => a < b)]
    {lead xs ys : List α} : lead ++ xs < lead ++ ys ↔ xs < ys := by
  induction lead with
  | nil => rfl
  | cons a rest ih =>
      have same : ¬ a < a := Std.Irrefl.irrefl a
      rw [List.cons_append, List.cons_append, List.cons_lt_cons_iff, ih]
      simp [same]

theorem not_lt_of_isPrefix {lead whole : List Char} (begins : lead <+: whole) :
    ¬ whole < lead := by
  induction lead generalizing whole with
  | nil => exact List.not_lt_nil whole
  | cons c rest ih =>
      obtain ⟨more, rfl⟩ := begins
      rw [List.cons_append, List.cons_lt_cons_iff]
      rintro (below | ⟨-, below⟩)
      · exact Char.lt_irrefl c below
      · exact ih (List.prefix_append rest more) below

/-- What stands between a text and an extension of it is an extension of it too. -/
theorem isPrefix_of_between {lead text whole : List Char} (reaches : ¬ text < lead)
    (below : text < whole) (begins : lead <+: whole) : lead <+: text := by
  induction lead generalizing text whole with
  | nil => exact List.nil_prefix
  | cons c rest ih =>
      obtain ⟨more, rfl⟩ := begins
      cases text with
      | nil => exact absurd (List.nil_lt_cons c rest) reaches
      | cons d text =>
          rw [List.cons_lt_cons_iff] at reaches
          rw [List.cons_append, List.cons_lt_cons_iff] at below
          rcases below with less | ⟨rfl, less⟩
          · exact absurd (.inl less) reaches
          · have onward := ih (fun less' => reaches (.inr ⟨rfl, less'⟩)) less
              (List.prefix_append rest more)
            exact List.cons_prefix_cons.mpr ⟨rfl, onward⟩

/-! ## Bytes -/

/-- The bytes of characters, one after another. -/
theorem bytes_ofList (text : List Char) :
    bytes (String.ofList text) = text.flatMap String.utf8EncodeChar := by
  simp [bytes, List.utf8Encode]

/-- The bytes of a smaller character come first, whatever follows. -/
theorem utf8EncodeChar_lt {c d : Char} (below : c < d) (xs ys : List UInt8) :
    String.utf8EncodeChar c ++ xs < String.utf8EncodeChar d ++ ys := by
  have less : c.val.toNat < d.val.toNat := below
  have bound : d.val.toNat < 1114112 := by
    have valid := d.valid
    rcases valid with low | high <;> omega
  have lt_iff {m n : Nat} (hm : m < 256) (hn : n < 256) :
      UInt8.ofNat m < UInt8.ofNat n ↔ m < n := by
    rw [UInt8.lt_iff_toNat_lt, UInt8.toNat_ofNat', UInt8.toNat_ofNat']
    omega
  have eq_iff {m n : Nat} (hm : m < 256) (hn : n < 256) :
      UInt8.ofNat m = UInt8.ofNat n ↔ m = n := by
    rw [← UInt8.toNat_inj, UInt8.toNat_ofNat', UInt8.toNat_ofNat']
    omega
  -- The first of the digits to the base 64 that differ decides.
  have digits {m n : Nat} (less : m < n) :
      m / 64 < n / 64 ∨ m / 64 = n / 64 ∧ m % 64 < n % 64 := by omega
  unfold String.utf8EncodeChar
  dsimp only
  generalize c.val.toNat = m at *
  generalize d.val.toNat = n at *
  have nested (k : Nat) : k / 4096 = k / 64 / 64 ∧ k / 262144 = k / 64 / 64 / 64 := by omega
  obtain ⟨m1, m2⟩ := nested m
  obtain ⟨n1, n2⟩ := nested n
  rw [m1, m2, n1, n2]
  have decides : (m / 64 / 64 / 64 < n / 64 / 64 / 64) ∨
      (m / 64 / 64 / 64 = n / 64 / 64 / 64 ∧ m / 64 / 64 % 64 < n / 64 / 64 % 64) ∨
      (m / 64 / 64 = n / 64 / 64 ∧ m / 64 % 64 < n / 64 % 64) ∨
      (m / 64 = n / 64 ∧ m % 64 < n % 64) := by
    rcases digits less with less | same
    · rcases digits less with less | same
      · rcases digits less with less | same
        · exact .inl less
        · exact .inr (.inl same)
      · exact .inr (.inr (.inl same))
    · exact .inr (.inr (.inr same))
  clear digits nested m1 m2 n1 n2
  by_cases after : xs < ys <;> (repeat' split) <;>
    simp (disch := omega) only [List.cons_append, List.nil_append, List.cons_lt_cons_iff, lt_iff,
      eq_iff, after, and_true, and_false, or_false] <;>
    omega

theorem utf8Encode_lt {a b : List Char} (below : a < b) :
    a.flatMap String.utf8EncodeChar < b.flatMap String.utf8EncodeChar := by
  induction a generalizing b with
  | nil =>
      cases b with
      | nil => exact absurd below (List.not_lt_nil [])
      | cons d more =>
          rw [List.flatMap_nil, List.flatMap_cons]
          cases first : String.utf8EncodeChar d with
          | nil => exact absurd first String.utf8EncodeChar_ne_nil
          | cons byte bytes => exact List.nil_lt_cons _ _
  | cons c rest ih =>
      cases b with
      | nil => exact absurd below (List.not_lt_nil _)
      | cons d more =>
          rw [List.flatMap_cons, List.flatMap_cons]
          rcases List.cons_lt_cons_iff.mp below with less | ⟨rfl, less⟩
          · exact utf8EncodeChar_lt less _ _
          · exact append_lt_append_iff.mpr (ih less)

/-- **Texts are ordered as their bytes are.** -/
theorem bytes_lt_iff {a b : String} : bytes a < bytes b ↔ a < b := by
  have forward {a b : String} (below : a < b) : bytes a < bytes b := by
    rw [← String.ofList_toList (s := a), ← String.ofList_toList (s := b), bytes_ofList,
      bytes_ofList]
    exact utf8Encode_lt below
  refine ⟨fun below => ?_, forward⟩
  rcases Std.lt_trichotomy a b with less | same | greater
  · exact less
  · exact absurd below (same ▸ List.lt_irrefl _)
  · exact absurd below (List.lt_asymm (forward greater))

end Depot.Text
