import EntitySchema.Proofs.TypeExpr.Literals

/-!
# Reading string arguments back

A string argument stands in the text of a storage type between single quotes, and a quote inside it
is written with a backslash before it. `Text.readQuoted` reads such a literal back: a backslash
makes the next character stand for itself, and any other quote ends the literal.

A quote is the only character that is written so, though a backslash is one that the reader does not
take for itself. So exactly the strings without a backslash are read back
(`string_argument_reads_back`). Behind a backslash a literal ends too early, or takes the text that
follows for a part of itself (`backslash_breaks_literal`).
-/

namespace EntitySchema

namespace Text

/-! ## Reading -/

/-- Reads up to the quote that ends a literal, and gives what follows as well; `escaped` says that
the next character stands for itself. -/
def readLiteral (escaped : Bool) : List Char → Option (List Char × List Char)
  | [] => none
  | c :: rest =>
    if escaped then (readLiteral false rest).map fun r => (c :: r.1, r.2)
    else if c = '\\' then readLiteral true rest
    else if c = '\'' then some ([], rest)
    else (readLiteral false rest).map fun r => (c :: r.1, r.2)

/-- Reads a literal from its opening quote. -/
def readQuoted : List Char → Option (List Char × List Char)
  | [] => none
  | c :: rest => if c = '\'' then readLiteral false rest else none

variable {cs s rest : List Char} {escaped : Bool}

/-- The characters of a string as they stand between its quotes. -/
def escapeQuotes (s : List Char) : List Char :=
  s.flatMap fun c => if c = '\'' then ['\\', '\''] else [c]

theorem quotedArgumentChars_append (s rest : List Char) :
    quotedArgumentChars s ++ rest = '\'' :: (escapeQuotes s ++ '\'' :: rest) := by
  simp [quotedArgumentChars, escapeQuotes]

theorem length_escapeQuotes (s : List Char) :
    (escapeQuotes s).length = s.length + s.count '\'' := by
  induction s with
  | nil => rfl
  | cons c s ih =>
    rw [escapeQuotes, List.flatMap_cons, List.length_append, ← escapeQuotes, ih, List.count_cons]
    by_cases h : c = '\''
    · simp [h]
      omega
    · simp [h]
      omega

theorem readLiteral_escapeQuotes (h : '\\' ∉ s) :
    readLiteral false (escapeQuotes s ++ '\'' :: rest) = some (s, rest) := by
  induction s with
  | nil => simp [escapeQuotes, readLiteral]
  | cons c s ih =>
    rw [List.mem_cons, not_or] at h
    obtain ⟨hc, hs⟩ := h
    rw [escapeQuotes, List.flatMap_cons, ← escapeQuotes]
    by_cases hq : c = '\''
    · simp [hq, readLiteral, ih hs]
    · simp [hq, Ne.symm hc, readLiteral, ih hs]

/-- What it takes to write a string so that it can be read back. -/
def readingLength (s : List Char) : Nat := s.length + s.count '\'' + s.count '\\'

theorem readingLength_cons (c : Char) (s : List Char) : readingLength (c :: s) =
    readingLength s + if c = '\'' ∨ c = '\\' then 2 else 1 := by
  unfold readingLength
  by_cases hq : c = '\''
  · simp [hq]
    omega
  · by_cases hb : c = '\\'
    · simp [hb]
      omega
    · simp [hq, hb]
      omega

/-- A quote or a backslash that is read takes two characters, the closing quote one. -/
theorem length_of_readLiteral (h : readLiteral escaped cs = some (s, rest)) :
    readingLength s + 1 + rest.length ≤ cs.length + if escaped then 1 else 0 := by
  induction cs generalizing escaped s with
  | nil => cases h
  | cons c cs ih =>
    rw [readLiteral] at h
    rw [List.length_cons]
    split at h
    · next he =>
      obtain ⟨r, hr, heq⟩ := Option.map_eq_some_iff.1 h
      cases heq
      have below := ih hr
      rw [readingLength_cons, if_pos he]
      simp only [Bool.false_eq_true, if_false] at below
      split <;> omega
    · next he =>
      rw [if_neg he]
      split at h
      · have below := ih h
        simpa using below
      · next hb =>
        split at h
        · cases h
          simp [readingLength]
          omega
        · next hq =>
          obtain ⟨r, hr, heq⟩ := Option.map_eq_some_iff.1 h
          cases heq
          have below := ih hr
          rw [readingLength_cons, if_neg (by simp [hq, hb])]
          simp only [Bool.false_eq_true, if_false] at below
          omega

/-- Exactly the strings without a backslash are read back. -/
theorem readQuoted_quotedArgumentChars_iff :
    readQuoted (quotedArgumentChars s ++ rest) = some (s, rest) ↔ '\\' ∉ s := by
  rw [quotedArgumentChars_append, readQuoted, if_pos rfl]
  constructor
  · intro h
    have taken := length_of_readLiteral h
    rw [List.length_append, length_escapeQuotes, List.length_cons, readingLength] at taken
    simp only [Bool.false_eq_true, if_false] at taken
    apply List.count_eq_zero.1
    omega
  · exact readLiteral_escapeQuotes

end Text

namespace StorageType

/-! ## Places of literals -/

/-- The text before an argument: the name, and the arguments before it. -/
def opening (name : String) (before : List TypeArgument) : List Char :=
  name.toList ++ '(' :: before.flatMap fun a => argumentChars a ++ [',', ' ']

/-- The text behind an argument: the arguments and the modifiers behind it. -/
def closing (behind : List TypeArgument) (modifiers : List Modifier) : List Char :=
  moreArgumentChars behind ++ ')' :: modifierChars modifiers

/-- A literal stands in the text of a storage type, at any depth, behind one text and before
another. -/
inductive ShowsLiteral : StorageType → List Char → Json → List Char → Prop where
  | here (name : String) (cls : TypeClass) (before : List TypeArgument) (x : Json)
      (behind : List TypeArgument) (modifiers : List Modifier) :
      ShowsLiteral ⟨name, cls, before ++ .literal x :: behind, modifiers⟩ (opening name before) x
        (closing behind modifiers)
  | inside {s : StorageType} {x : Json} {pre post : List Char} (name : String) (cls : TypeClass)
      (before behind : List TypeArgument) (modifiers : List Modifier)
      (shown : ShowsLiteral s pre x post) :
      ShowsLiteral ⟨name, cls, before ++ .type s :: behind, modifiers⟩
        (opening name before ++ pre) x (post ++ closing behind modifiers)

variable {t : StorageType} {x : Json} {pre post : List Char}

theorem argumentChars_append (b a : TypeArgument) (before behind : List TypeArgument) :
    argumentChars b ++ moreArgumentChars (before ++ a :: behind) =
      ((b :: before).flatMap fun a => argumentChars a ++ [',', ' ']) ++
        (argumentChars a ++ moreArgumentChars behind) := by
  induction before generalizing b with
  | nil => simp [moreArgumentChars]
  | cons b' before ih =>
    rw [List.cons_append, moreArgumentChars, List.flatMap_cons, List.append_assoc, ← ih b']
    simp

/-- The text of a storage type, cut at one of its arguments. -/
theorem chars_append (name : String) (cls : TypeClass) (before : List TypeArgument)
    (a : TypeArgument) (behind : List TypeArgument) (modifiers : List Modifier) :
    chars ⟨name, cls, before ++ a :: behind, modifiers⟩ =
      opening name before ++ (argumentChars a ++ closing behind modifiers) := by
  cases before with
  | nil => simp [chars, opening, closing]
  | cons b before =>
    rw [List.cons_append, chars]
    calc name.toList ++ '(' :: argumentChars b ++ moreArgumentChars (before ++ a :: behind) ++
          ')' :: modifierChars modifiers
        = name.toList ++ '(' :: (argumentChars b ++ moreArgumentChars (before ++ a :: behind)) ++
          ')' :: modifierChars modifiers := by simp
      _ = opening name (b :: before) ++ (argumentChars a ++ closing behind modifiers) := by
        rw [argumentChars_append]
        simp [opening, closing]

theorem argumentChars_type (s : StorageType) : argumentChars (.type s) = s.chars := by
  rw [argumentChars]

theorem argumentChars_string (s : String) :
    argumentChars (.literal (.str s)) = Text.quotedArgumentChars s.toList := by
  rw [argumentChars]

/-- A literal stands where it is said to stand. -/
theorem chars_of_showsLiteral (h : t.ShowsLiteral pre x post) :
    t.chars = pre ++ (argumentChars (.literal x) ++ post) := by
  induction h with
  | here => rw [chars_append]
  | inside _ _ _ _ _ _ ih =>
    rw [chars_append, argumentChars_type, ih]
    simp

/-- Every literal of a storage type stands somewhere in its text. -/
theorem exists_showsLiteral (h : t.HasLiteral x) : ∃ pre post, t.ShowsLiteral pre x post := by
  induction h with
  | @here t x h =>
    obtain ⟨name, cls, args, modifiers⟩ := t
    obtain ⟨before, behind, rfl⟩ := List.append_of_mem h
    exact ⟨_, _, .here ..⟩
  | @inside t s x h _ ih =>
    obtain ⟨name, cls, args, modifiers⟩ := t
    obtain ⟨before, behind, rfl⟩ := List.append_of_mem h
    obtain ⟨pre, post, shown⟩ := ih
    exact ⟨_, _, .inside name cls before behind modifiers shown⟩

end StorageType

/-- **Reading string arguments back.** A string argument of a storage type, at any depth, has its
place in the text of the type. Reading from there ends where the argument ends and gives the string,
just when there is no backslash in it. -/
theorem string_argument_reads_back {t : StorageType} {s : String} (h : t.HasLiteral (.str s)) :
    (∃ pre post, t.ShowsLiteral pre (.str s) post) ∧
    ∀ pre post, t.ShowsLiteral pre (.str s) post →
      t.chars = pre ++ (Text.quotedArgumentChars s.toList ++ post) ∧
      (Text.readQuoted (Text.quotedArgumentChars s.toList ++ post) = some (s.toList, post) ↔
        '\\' ∉ s.toList) := by
  refine ⟨StorageType.exists_showsLiteral h, fun pre post shown => ⟨?_, ?_⟩⟩
  · rw [StorageType.chars_of_showsLiteral shown, StorageType.argumentChars_string]
  · exact Text.readQuoted_quotedArgumentChars_iff

/-- A list of one enumeration, whose second value has a quote in it. -/
def StorageType.listOfWords : StorageType :=
  ⟨"ARRAY", .array,
    [.type ⟨"ENUM", .enum, [.literal (.str "yes"), .literal (.str "don't")], []⟩], []⟩

theorem quoted_word_reads_back : StorageType.listOfWords.HasLiteral (.str "don't") ∧
    StorageType.listOfWords.text = "ARRAY(ENUM('yes', 'don\\'t'))" ∧
    ∃ pre post, StorageType.listOfWords.ShowsLiteral pre (.str "don't") post ∧
      Text.readQuoted (Text.quotedArgumentChars "don't".toList ++ post) =
        some ("don't".toList, post) := by
  have h : StorageType.listOfWords.HasLiteral (.str "don't") :=
    .inside (List.mem_singleton_self _) (.here (by simp))
  obtain ⟨⟨pre, post, shown⟩, reads⟩ := string_argument_reads_back h
  exact ⟨h, by decide +kernel, pre, post, shown, (reads pre post shown).2.2 (by decide +kernel)⟩

/-- A text whose length is given as a string. -/
def Descriptor.textOf (s : String) : Descriptor := ⟨"TEXT", [.literal (.str s)], {}⟩

/-- A backslash at the end of a string takes the closing quote for a part of the string, and one
before a quote ends the string too early. -/
theorem backslash_breaks_literal :
    (∃ t, (Descriptor.textOf "\\").eval .standard = .ok t ∧ t.text = "TEXT('\\')" ∧
      t.ShowsLiteral "TEXT(".toList (.str "\\") [')'] ∧
      Text.readQuoted (Text.quotedArgumentChars "\\".toList ++ [')']) = none) ∧
    ∃ t, (Descriptor.textOf "\\'").eval .standard = .ok t ∧ t.text = "TEXT('\\\\'')" ∧
      t.ShowsLiteral "TEXT(".toList (.str "\\'") [')'] ∧
      Text.readQuoted (Text.quotedArgumentChars "\\'".toList ++ [')']) =
        some (['\\'], "')".toList) := by
  refine ⟨⟨_, rfl, by decide +kernel, ?_, by decide +kernel⟩,
    ⟨_, rfl, by decide +kernel, ?_, by decide +kernel⟩⟩
  · exact .here "TEXT" .string [] (.str "\\") [] []
  · exact .here "TEXT" .string [] (.str "\\'") [] []

end EntitySchema
