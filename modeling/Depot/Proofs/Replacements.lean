import Depot.Xml.Text

/-!
# Entities, one kind after the other

A text can be escaped, and read, by replacements: all occurrences of one word, then
all of the next.  When no replacement makes or breaks an occurrence of a later
word, the replacements in turn come to one pass in which each word is replaced
where it is found (`replaceInTurn_eq`).  Escaping is such a pass over five
characters, and reading one over five entities, the ampersand last.
-/

namespace Depot.Xml

set_option autoImplicit false

/-- Words, with what takes their place. -/
abbrev Replacements := List (List Char × List Char)

/-- One pass over a text from which `skip` characters are passed over: the first word that is found
at a place is replaced there. -/
def replaceFrom (words : Replacements) : Nat → List Char → List Char
  | _, [] => []
  | skip + 1, _ :: rest => replaceFrom words skip rest
  | 0, c :: rest =>
      match words.find? fun e => e.1.isPrefixOf (c :: rest) with
      | some e => e.2 ++ replaceFrom words (e.1.length - 1) rest
      | none => c :: replaceFrom words 0 rest

def replaceWords (words : Replacements) (text : List Char) : List Char := replaceFrom words 0 text

def replaceAll (word new text : List Char) : List Char := replaceWords [(word, new)] text

/-- A text in which the words are replaced in turn. -/
def replaceInTurn (words : Replacements) (text : List Char) : List Char :=
  words.foldl (fun text e => replaceAll e.1 e.2 text) text

/-! ## One pass -/

/-- No word is empty or begins another one. -/
def PrefixFree (words : Replacements) : Prop :=
  ∀ e, e ∈ words → e.1 ≠ [] ∧ ∀ e', e' ∈ words → e.1 <+: e'.1 → e = e'

instance (words : Replacements) : Decidable (PrefixFree words) :=
  inferInstanceAs (Decidable (∀ e, e ∈ words → e.1 ≠ [] ∧ ∀ e', e' ∈ words → e.1 <+: e'.1 → e = e'))

theorem PrefixFree.tail {e : List Char × List Char} {words : Replacements}
    (free : PrefixFree (e :: words)) : PrefixFree words :=
  fun e' member => (free e' (.tail _ member)).imp_right
    fun apart other among => apart other (.tail _ among)

theorem replaceFrom_eq_drop (words : Replacements) (skip : Nat) (text : List Char) :
    replaceFrom words skip text = replaceWords words (text.drop skip) := by
  induction text generalizing skip with
  | nil => simp [replaceWords, replaceFrom]
  | cons c rest ih =>
      cases skip with
      | zero => rfl
      | succ skip => exact ih skip

section

variable {words : Replacements}

/-- Where no word is found, a character stays. -/
theorem replaceWords_cons {c : Char} {rest : List Char}
    (none : ∀ e, e ∈ words → ¬ e.1 <+: c :: rest) :
    replaceWords words (c :: rest) = c :: replaceWords words rest := by
  have unfound : (words.find? fun e => e.1.isPrefixOf (c :: rest)) = Option.none :=
    List.find?_eq_none.mpr fun e member => by simpa using none e member
  rw [replaceWords, replaceFrom, unfound]
  rfl

/-- A word is replaced where it is found. -/
theorem replaceWords_word (free : PrefixFree words) {e : List Char × List Char}
    (member : e ∈ words) (rest : List Char) :
    replaceWords words (e.1 ++ rest) = e.2 ++ replaceWords words rest := by
  obtain ⟨some, apart⟩ := free e member
  obtain ⟨c, more, word⟩ := List.exists_cons_of_ne_nil some
  have found : (words.find? fun e => e.1.isPrefixOf (c :: (more ++ rest))) = Option.some e := by
    have any : (words.find? fun e => e.1.isPrefixOf (c :: (more ++ rest))).isSome :=
      List.find?_isSome.mpr ⟨e, member, by simp [word]⟩
    obtain ⟨e', known⟩ := Option.isSome_iff_exists.mp any
    have begins : e'.1 <+: e.1 ++ rest := by
      rw [word]
      simpa using List.find?_some known
    have among := List.mem_of_find?_eq_some known
    rw [known]
    -- Both words begin the text, so one begins the other.
    rcases List.prefix_or_prefix_of_prefix begins (List.prefix_append e.1 rest) with first | first
    · exact congrArg _ ((free e' among).2 e member first)
    · exact congrArg _ (apart e' among first).symm
  rw [word, List.cons_append, replaceWords, replaceFrom, found]
  dsimp only
  rw [replaceFrom_eq_drop, word, List.length_cons, Nat.add_sub_cancel, List.drop_left]

/-- A text stays in which no word begins. -/
theorem replaceWords_append {text : List Char} (free : PrefixFree words)
    (none : ∀ e, e ∈ words → ∀ c, c ∈ text → e.1.head? ≠ some c) (rest : List Char) :
    replaceWords words (text ++ rest) = text ++ replaceWords words rest := by
  induction text with
  | nil => rfl
  | cons c text ih =>
      have others := ih fun e member d inside => none e member d (.tail _ inside)
      rw [List.cons_append, replaceWords_cons, others, List.cons_append]
      rintro e member ⟨more, whole⟩
      obtain ⟨first, word, known⟩ := List.exists_cons_of_ne_nil (free e member).1
      rw [known, List.cons_append, List.cons.injEq] at whole
      exact none e member c List.mem_cons_self (by rw [known, whole.1]; rfl)

end

/-! ## One word after the other -/

/-- What takes the place of a word has no character of the later words, and none of these has the
beginning of the word inside it. -/
def Apart (e : List Char × List Char) (later : Replacements) : Prop :=
  e.2 ≠ [] ∧ ∀ e', e' ∈ later → (∀ c, c ∈ e.2 → c ∉ e'.1) ∧
    ∀ c, c ∈ e'.1.tail → e.1.head? ≠ some c

instance (e : List Char × List Char) (later : Replacements) : Decidable (Apart e later) :=
  have : ∀ (chars : List Char) (p : Char → Prop) [DecidablePred p],
      Decidable (∀ c, c ∈ chars → p c) := fun chars p _ => List.decidableBAll p chars
  inferInstanceAs (Decidable (_ ∧ ∀ e', e' ∈ later → (∀ c, c ∈ e.2 → c ∉ e'.1) ∧
    ∀ c, c ∈ e'.1.tail → e.1.head? ≠ some c))

section

variable {word new : List Char}

theorem prefixFree_singleton (some : word ≠ []) : PrefixFree [(word, new)] := by
  intro e member
  obtain rfl := List.mem_singleton.mp member
  exact ⟨some, fun e' among _ => (List.mem_singleton.mp among).symm⟩

/-- A replacement makes no word that has none of its characters. -/
theorem prefix_of_prefix_replaceAll (some : word ≠ []) (nonempty : new ≠ [])
    {other text : List Char} (without : ∀ c, c ∈ new → c ∉ other)
    (begins : other <+: replaceAll word new text) :
    other <+: text := by
  induction other generalizing text with
  | nil => exact List.nil_prefix
  | cons d other ih =>
      cases text with
      | nil => exact begins
      | cons c rest =>
          by_cases found : word <+: c :: rest
          · obtain ⟨after, whole⟩ := found
            obtain ⟨first, more, known⟩ := List.exists_cons_of_ne_nil nonempty
            rw [replaceAll, ← whole,
              replaceWords_word (e := (word, new)) (prefixFree_singleton some) (.head _), known,
              List.cons_append, List.cons_prefix_cons] at begins
            refine absurd List.mem_cons_self (without d ?_)
            rw [known, begins.1]
            exact .head _
          · rw [replaceAll, replaceWords_cons (by simpa using found),
              List.cons_prefix_cons] at begins
            rw [List.cons_prefix_cons]
            exact ⟨begins.1, ih (fun c inside among => without c inside (.tail _ among)) begins.2⟩

/-- A word in which the one that is replaced does not begin is passed over. -/
theorem replaceAll_append (some : word ≠ []) {other rest : List Char} (filled : other ≠ [])
    (unfound : ¬ word <+: other ++ rest)
    (inside : ∀ c, c ∈ other.tail → word.head? ≠ Option.some c) :
    replaceAll word new (other ++ rest) = other ++ replaceAll word new rest := by
  obtain ⟨c, more, rfl⟩ := List.exists_cons_of_ne_nil filled
  rw [List.cons_append] at unfound ⊢
  rw [replaceAll, replaceWords_cons (by simpa using unfound),
    replaceWords_append (prefixFree_singleton some) (by simpa using inside)]
  rfl

/-- A word can be replaced before the others instead of along with them. -/
theorem replaceWords_replaceAll {later : Replacements} (free : PrefixFree ((word, new) :: later))
    (apart : Apart (word, new) later) (text : List Char) :
    replaceWords later (replaceAll word new text) = replaceWords ((word, new) :: later) text := by
  obtain ⟨nonempty, apart⟩ := apart
  have some : word ≠ [] := (free _ (.head _)).1
  have single : PrefixFree [(word, new)] := prefixFree_singleton some
  have shorter {front rest : List Char} (filled : front ≠ []) :
      rest.length < (front ++ rest).length := by
    have := List.length_pos_iff.mpr filled
    rw [List.length_append]
    omega
  induction size : text.length using Nat.strongRecOn generalizing text with
  | ind n ih =>
      subst size
      by_cases found : word <+: text
      · obtain ⟨rest, rfl⟩ := found
        have inserted : ∀ e, e ∈ later → ∀ c, c ∈ new → e.1.head? ≠ Option.some c :=
          fun e member c inside begins =>
            (apart e member).1 c inside (List.mem_of_mem_head? begins)
        rw [replaceAll, replaceWords_word (e := (word, new)) single (.head _),
          replaceWords_append free.tail inserted,
          replaceWords_word (e := (word, new)) free (.head _)]
        exact congrArg (new ++ ·) (ih _ (shorter some) rest rfl)
      by_cases other : ∃ e, e ∈ later ∧ e.1 <+: text
      · obtain ⟨e, member, rest, rfl⟩ := other
        have filled : e.1 ≠ [] := (free e (.tail _ member)).1
        rw [replaceAll_append some filled found (apart e member).2,
          replaceWords_word free.tail member, replaceWords_word free (.tail _ member)]
        exact congrArg (e.2 ++ ·) (ih _ (shorter filled) rest rfl)
      cases text with
      | nil => rfl
      | cons c rest =>
          have passed : replaceAll word new (c :: rest) = c :: replaceAll word new rest :=
            replaceWords_cons (by simpa using found)
          have unmade : ∀ e, e ∈ later → ¬ e.1 <+: c :: replaceAll word new rest := by
            intro e member begins
            rw [← passed] at begins
            exact other ⟨e, member,
              prefix_of_prefix_replaceAll some nonempty (apart e member).1 begins⟩
          have unfound : ∀ e, e ∈ (word, new) :: later → ¬ e.1 <+: c :: rest := by
            rintro e (_ | ⟨_, member⟩)
            · exact found
            · exact fun begins => other ⟨e, member, begins⟩
          rw [passed, replaceWords_cons unmade, replaceWords_cons unfound]
          exact congrArg (c :: ·) (ih _ (by simp) rest rfl)

end

/-- Each word stands apart from those after it. -/
def InTurn : Replacements → Prop
  | [] => True
  | e :: later => Apart e later ∧ InTurn later

instance decidableInTurn : (words : Replacements) → Decidable (InTurn words)
  | [] => .isTrue trivial
  | e :: later =>
      have := decidableInTurn later
      inferInstanceAs (Decidable (Apart e later ∧ InTurn later))

/-- **Replacements in turn come to one pass.** -/
theorem replaceInTurn_eq {words : Replacements} (free : PrefixFree words) (apart : InTurn words)
    (text : List Char) : replaceInTurn words text = replaceWords words text := by
  induction words generalizing text with
  | nil =>
      have same : replaceWords [] text = text := by
        induction text with
        | nil => rfl
        | cons c rest ih => rw [replaceWords_cons (by simp), ih]
      exact same.symm
  | cons e later ih =>
      rw [← replaceWords_replaceAll free apart.1, ← ih free.tail apart.2]
      rfl

/-! ## Entities -/

/-- The replacements that escape a text. -/
def escapes : Replacements :=
  [("&".toList, "&amp;".toList), ("<".toList, "&lt;".toList), (">".toList, "&gt;".toList),
    ("\x22".toList, "&quot;".toList), ("\x27".toList, "&apos;".toList)]

/-- The replacements that read it. -/
def unescapes : Replacements :=
  [("&lt;".toList, "<".toList), ("&gt;".toList, ">".toList), ("&quot;".toList, "\x22".toList),
    ("&apos;".toList, "\x27".toList), ("&amp;".toList, "&".toList)]

/-- A character is escaped as the word of its own that it is. -/
theorem replaceWords_escapes (text : List Char) : replaceWords escapes text = escapeChars text := by
  have free : PrefixFree escapes := by decide
  induction text with
  | nil => rfl
  | cons c rest ih =>
      have step : escapeChars (c :: rest) = escapeChar c ++ escapeChars rest := rfl
      by_cases special : ∃ e, e ∈ escapes ∧ e.1 = [c]
      · obtain ⟨e, member, word⟩ := special
        have escaped : escapeChar c = e.2 := by
          simp only [escapes, List.mem_cons, List.not_mem_nil, or_false] at member
          rcases member with rfl | rfl | rfl | rfl | rfl <;> injection word with first _ <;>
            exact first ▸ rfl
        have found := replaceWords_word free member rest
        rw [word, List.singleton_append] at found
        rw [found, step, escaped, ih]
      · have none : ∀ e, e ∈ escapes → ¬ e.1 <+: c :: rest := by
          intro e member begins
          have single : ∀ e, e ∈ escapes → e.1.length = 1 := by decide
          obtain ⟨d, word⟩ := List.length_eq_one_iff.mp (single e member)
          rw [word, List.cons_prefix_cons] at begins
          exact special ⟨e, member, begins.1 ▸ word⟩
        have plain : escapeChar c = [c] := by
          have differs (d : Char) (among : ∃ e, e ∈ escapes ∧ e.1 = [d]) : c ≠ d := by
            rintro rfl
            exact special among
          unfold escapeChar
          rw [if_neg (differs _ (by decide)), if_neg (differs _ (by decide)),
            if_neg (differs _ (by decide)), if_neg (differs _ (by decide)),
            if_neg (differs _ (by decide))]
        rw [replaceWords_cons none, step, plain, ih]
        rfl

theorem replaceWords_unescapes (text : List Char) :
    replaceWords unescapes text = unescapeChars text := by
  have free : PrefixFree unescapes := by decide
  have word (e : List Char × List Char) (member : e ∈ unescapes) (rest : List Char) :=
    replaceWords_word free member rest
  induction text using unescapeChars.induct with
  | case1 => rfl
  | case2 rest ih => exact (word ("&amp;".toList, ['&']) (by decide) rest).trans (congrArg _ ih)
  | case3 rest ih => exact (word ("&lt;".toList, ['<']) (by decide) rest).trans (congrArg _ ih)
  | case4 rest ih => exact (word ("&gt;".toList, ['>']) (by decide) rest).trans (congrArg _ ih)
  | case5 rest ih => exact (word ("&quot;".toList, ['\x22']) (by decide) rest).trans (congrArg _ ih)
  | case6 rest ih => exact (word ("&apos;".toList, ['\x27']) (by decide) rest).trans (congrArg _ ih)
  | case7 c rest amp less greater quote mark ih =>
      have none : ∀ e, e ∈ unescapes → ¬ e.1 <+: c :: rest := by
        rintro e member ⟨more, whole⟩
        simp only [unescapes, List.mem_cons, List.not_mem_nil, or_false] at member
        rcases member with rfl | rfl | rfl | rfl | rfl <;> injection whole with first others
        · exact less more first.symm others.symm
        · exact greater more first.symm others.symm
        · exact quote more first.symm others.symm
        · exact mark more first.symm others.symm
        · exact amp more first.symm others.symm
      rw [replaceWords_cons none, ih, unescapeChars.eq_7 c rest amp less greater quote mark]

/-- **Escaping is five replacements in turn**, of the ampersand first. -/
theorem escape_eq_replaceInTurn (text : String) :
    escape text = String.ofList (replaceInTurn escapes text.toList) := by
  rw [replaceInTurn_eq (by decide) (by decide), replaceWords_escapes]
  rfl

/-- **Reading is five replacements in turn**, of the ampersand last. -/
theorem unescape_eq_replaceInTurn (text : String) :
    unescape text = String.ofList (replaceInTurn unescapes text.toList) := by
  rw [replaceInTurn_eq (by decide) (by decide), replaceWords_unescapes]
  rfl

end Depot.Xml
