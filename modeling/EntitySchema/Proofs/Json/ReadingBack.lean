import EntitySchema.Json.Printer
import EntitySchema.Json.Reader
import EntitySchema.Proofs.Json.Nesting
import EntitySchema.Proofs.Outcome
import EntitySchema.Proofs.Text.Numerals

/-!
# Reading compact text back

The compact text of a value is read as the value (`Json.Kept.readsBack`), if no object in it repeats
a key, its numbers are whole and of 64 bits, and no more brackets are open at once than the reader
allows. Of the numbers only this is used, that each is read as itself where it stands
(`Number.ReadsBack`). A binary64 need not be, since a numeral with many digits is not read as the
nearest binary64.

What a step of the reader does is said by `Reads`: wherever a text stands, the step gives a result
and leaves the rest. Behind a value only a comma or a closing bracket can come, so a number ends
where its text does (`Ends`). The reader runs on fuel, of which a value needs no more than its text
is long.
-/

namespace EntitySchema

variable {x c : Char} {cs text rest more : List Char} {p : Json.Position} {fuel depth : Nat}

namespace Json

/-- What a step of the reader makes of a text, wherever it stands: a result, and what is left. -/
def Reads {α : Type} (read : Cursor → Except Fault (α × Cursor)) (text : List Char) (a : α)
    (rest : List Char) : Prop :=
  ∀ p, ∃ q, read ⟨p, text⟩ = .ok (a, ⟨q, rest⟩)

/-- What may stand behind a value: nothing, a comma or a closing bracket. -/
def Ends (rest : List Char) : Prop := ∀ c ∈ rest.head?, c = ',' ∨ c = ']' ∨ c = '\x7d'

theorem Ends.not_isDigit (h : Ends rest) : ∀ c ∈ rest.head?, c.isDigit = false := by
  intro c hc
  rcases h c hc with rfl | rfl | rfl <;> decide

/-! ## Cursors -/

namespace Cursor

theorem skipBlank_cons (h : x.isWhitespace = false) (p : Position) (cs : List Char) :
    skipBlank ⟨p, x :: cs⟩ = ⟨p, x :: cs⟩ := by
  simp only [Char.isWhitespace, Bool.or_eq_false_iff, decide_eq_false_iff_not] at h
  obtain ⟨⟨⟨space, tab⟩, ret⟩, feed⟩ := h
  simp [skipBlank, advance, space, tab, ret, feed]

theorem exists_advance (part rest : List Char) (p : Position) :
    ∃ q, advance ⟨p, part ++ rest⟩ part.length = ⟨q, rest⟩ := by
  refine ⟨part.foldl Position.after p, ?_⟩
  rw [advance, List.take_left, List.drop_left]

end Cursor

/-! ## Numbers -/

theorem digits_toDigits (h : Ends rest) (n : Nat) (p : Position) :
    Cursor.digits ⟨p, Nat.toDigits 10 n ++ rest⟩ = Nat.toDigits 10 n := by
  rw [Cursor.digits, List.takeWhile_append_of_pos fun c hc => Text.isDigit_of_mem_toDigits hc]
  cases rest with
  | nil => simp
  | cons c cs => simp [h.not_isDigit c rfl]

/-- Behind a leading zero no digit comes. -/
theorem no_digit_behind_zero (h : Ends rest) {n : Nat} {ds : List Char}
    (hds : Nat.toDigits 10 n = '0' :: ds) : (ds ++ rest).head?.any Char.isDigit = false := by
  have zero : n = 0 := by
    by_contra hn
    exact Text.head?_toDigits_ne hn (by rw [hds]; rfl)
  subst zero
  obtain rfl : ds = [] := by simpa using hds.symm
  cases rest with
  | nil => rfl
  | cons c cs => simpa using h.not_isDigit c rfl

/-- A numeral that is kept exactly is read as its number. -/
theorem reads_unsigned (h : Ends rest) {negative : Bool} {n : Nat} {m : Int}
    (hm : exactInt negative (Nat.toDigits 10 n) = some m) :
    Reads (readUnsigned negative) (Nat.toDigits 10 n ++ rest) (.int m) rest := by
  intro p
  obtain ⟨q, behind⟩ := Cursor.exists_advance (Nat.toDigits 10 n) rest p
  refine ⟨q, ?_⟩
  obtain ⟨d, ds, hds⟩ := List.exists_cons_of_ne_nil (Nat.toDigits_ne_nil (b := 10) (n := n))
  have digit : d.isDigit = true := Text.isDigit_of_mem_toDigits (n := n) (by simp [hds])
  have whole := digits_toDigits h n p
  have zero : (d = '0' && (ds ++ rest).head?.any Char.isDigit) = false := by
    by_cases hd : d = '0'
    · rw [no_digit_behind_zero h (hd ▸ hds), Bool.and_false]
    · simp [hd]
  rw [hds] at whole behind hm ⊢
  rw [List.cons_append] at whole behind ⊢
  simp only [readUnsigned, Cursor.next, whole, behind, zero, digit, Bool.not_true,
    Bool.false_eq_true, if_false]
  cases rest with
  | nil => simp only [hm]
  | cons c cs =>
    simp only [hm]
    rcases h c rfl with rfl | rfl | rfl <;> rfl

theorem exactInt_toDigits {n : Int} (low : -(Nat.pow 2 63 : Nat) ≤ n)
    (high : n < (Nat.pow 2 64 : Nat)) :
    exactInt (decide (n < 0)) (Nat.toDigits 10 n.natAbs) = some n := by
  rw [exactInt, Text.decimalValue_toDigits]
  by_cases negative : n < 0
  · have bound : 0 < n.natAbs ∧ n.natAbs ≤ Nat.pow 2 63 := by
      have : Nat.pow 2 63 = 9223372036854775808 := rfl
      omega
    rw [decide_eq_true negative, if_pos rfl, if_pos bound]
    exact congrArg some (by omega)
  · have bound : n.natAbs < Nat.pow 2 64 := by
      have : Nat.pow 2 64 = 18446744073709551616 := rfl
      omega
    rw [decide_eq_false negative, if_neg (by decide), if_pos bound]
    exact congrArg some (by omega)

/-- **Whole numbers** of 64 bits are read back. -/
theorem reads_int (h : Ends rest) {n : Int} (low : -(Nat.pow 2 63 : Nat) ≤ n)
    (high : n < (Nat.pow 2 64 : Nat)) :
    Reads readNumber (numberChars (.int n) ++ rest) (.int n) rest := by
  have exact := exactInt_toDigits low high
  intro p
  show ∃ q, readNumber ⟨p, intChars n ++ rest⟩ = _
  rw [intChars]
  by_cases negative : n < 0
  · rw [if_pos negative]
    rw [decide_eq_true negative] at exact
    have sign : ('-' :: Nat.toDigits 10 n.natAbs ++ rest).head? = some '-' := rfl
    rw [readNumber, if_pos sign]
    exact reads_unsigned h exact (p.after '-')
  · rw [if_neg negative]
    rw [decide_eq_false negative] at exact
    have unsigned : (Nat.toDigits 10 n.natAbs ++ rest).head? ≠ some '-' := by
      rw [List.head?_append_of_ne_nil _ Nat.toDigits_ne_nil]
      exact fun sign => Text.not_mem_toDigits (by decide) _ (List.mem_of_head? sign)
    obtain ⟨q, hq⟩ := reads_unsigned h exact p
    exact ⟨q, by rw [readNumber, if_neg unsigned, hq]⟩

/-! ## Strings -/

theorem utf8Size_hexDigit : ∀ n < 16, (hexDigit n).utf8Size = 1 := by decide

theorem hexValue?_control : ∀ n < 32,
    Text.hexValue? ['0', '0', hexDigit (n / 16), hexDigit (n % 16)] = some n := by decide

/-- The four digits of a control character are read as its code. -/
theorem reads_hex {n : Nat} (hn : n < 32) (rest : List Char) :
    Reads readHex ('0' :: '0' :: hexDigit (n / 16) :: hexDigit (n % 16) :: rest) n rest := by
  intro p
  have high := utf8Size_hexDigit (n / 16) (by omega)
  have low := utf8Size_hexDigit (n % 16) (by omega)
  have zero : '0'.utf8Size = 1 := by decide
  obtain ⟨q, present⟩ : ∃ q, p.afterBytes? 4
      ('0' :: '0' :: hexDigit (n / 16) :: hexDigit (n % 16) :: rest) = some q := by
    simp [Position.afterBytes?, zero, high, low]
  rw [readHex, present]
  dsimp only [List.take]
  rw [hexValue?_control n hn]
  exact ⟨_, rfl⟩

/-- A code below the surrogates is read as its character. -/
theorem Reads.unicode {n : Nat} (h : Reads readHex text n rest) (hn : n < 0xD800) :
    Reads readEscape ('u' :: text) (Char.ofNat n) rest := by
  intro p
  obtain ⟨q, hex⟩ := h (p.after 'u')
  refine ⟨q, ?_⟩
  show readUnicode ⟨p.after 'u', text⟩ = _
  rw [readUnicode, hex]
  show ite _ _ _ = _
  rw [if_neg (by omega), if_pos (by omega)]

/-- What stands for a character in a string: the character itself, or a backslash and what is read
as an escape of the character. -/
theorem stringChar_cases (c : Char) :
    (stringChar c = [c] ∧ c ≠ '"' ∧ c ≠ '\\' ∧ 0x20 ≤ c.toNat) ∨
    ∃ escape, stringChar c = '\\' :: escape ∧
      ∀ rest, Reads readEscape (escape ++ rest) c rest := by
  by_cases quote : c = '"'
  · subst quote
    exact .inr ⟨['"'], rfl, fun rest p => ⟨_, rfl⟩⟩
  by_cases backslash : c = '\\'
  · subst backslash
    exact .inr ⟨['\\'], rfl, fun rest p => ⟨_, rfl⟩⟩
  by_cases plain : 0x20 ≤ c.toNat
  · refine .inl ⟨?_, quote, backslash, plain⟩
    rw [stringChar, if_neg quote, if_neg backslash, if_pos plain]
  by_cases back : c = '\x08'
  · subst back
    exact .inr ⟨['b'], rfl, fun rest p => ⟨_, rfl⟩⟩
  by_cases form : c = '\x0c'
  · subst form
    exact .inr ⟨['f'], rfl, fun rest p => ⟨_, rfl⟩⟩
  by_cases feed : c = '\n'
  · subst feed
    exact .inr ⟨['n'], rfl, fun rest p => ⟨_, rfl⟩⟩
  by_cases ret : c = '\r'
  · subst ret
    exact .inr ⟨['r'], rfl, fun rest p => ⟨_, rfl⟩⟩
  by_cases tab : c = '\t'
  · subst tab
    exact .inr ⟨['t'], rfl, fun rest p => ⟨_, rfl⟩⟩
  refine .inr ⟨'u' :: '0' :: '0' :: hexDigit (c.toNat / 16) :: [hexDigit (c.toNat % 16)], ?_,
    fun rest => ?_⟩
  · rw [stringChar, if_neg quote, if_neg backslash, if_neg plain, if_neg back, if_neg form,
      if_neg feed, if_neg ret, if_neg tab]
  · have escape := (reads_hex (Nat.lt_of_not_le plain) rest).unicode (by omega)
    rwa [Char.ofNat_toNat] at escape

/-- What stands for a character in a string is read as the character. -/
theorem readChars_stringChar (c : Char) (read more : List Char) (fuel : Nat) (p : Position) :
    ∃ q, readChars (fuel + 1) read ⟨p, stringChar c ++ more⟩ =
      readChars fuel (c :: read) ⟨q, more⟩ := by
  rcases stringChar_cases c with ⟨plain, quote, backslash, bound⟩ | ⟨escape, escaped, reads⟩
  · refine ⟨p.after c, ?_⟩
    rw [plain, List.singleton_append, readChars]
    split
    · next h => cases h
    · next h => exact absurd (List.cons.inj h).1 quote
    · next h => exact absurd (List.cons.inj h).1 backslash
    · next h =>
      obtain ⟨rfl, rfl⟩ := List.cons.inj h
      rw [if_neg (Nat.not_lt.2 bound)]
      rfl
  · obtain ⟨q, read_escape⟩ := reads more (p.after '\\')
    refine ⟨q, ?_⟩
    rw [escaped]
    show (readEscape ⟨p.after '\\', escape ++ more⟩ >>= _) = _
    rw [read_escape]
    rfl

theorem reads_chars (cs read rest : List Char) (h : cs.length < fuel) :
    Reads (readChars fuel read) (cs.flatMap stringChar ++ '"' :: rest)
      (String.ofList (read.reverse ++ cs)) rest := by
  intro p
  induction cs generalizing fuel read p with
  | nil =>
    obtain ⟨fuel, rfl⟩ := Nat.exists_eq_add_one_of_ne_zero (Nat.ne_zero_of_lt h)
    rw [List.append_nil]
    exact ⟨p.after '"', rfl⟩
  | cons c cs ih =>
    obtain ⟨fuel, rfl⟩ := Nat.exists_eq_add_one_of_ne_zero (Nat.ne_zero_of_lt h)
    rw [List.flatMap_cons, List.append_assoc]
    obtain ⟨q, step⟩ := readChars_stringChar c read (cs.flatMap stringChar ++ '"' :: rest) fuel p
    obtain ⟨q', others⟩ := ih (c :: read) (Nat.lt_of_succ_lt_succ h) q
    exact ⟨q', by rw [step, others, List.reverse_cons, List.append_assoc, List.singleton_append]⟩

theorem length_le_flatMap_stringChar (cs : List Char) :
    cs.length ≤ (cs.flatMap stringChar).length := by
  induction cs with
  | nil => exact Nat.le_refl 0
  | cons c cs ih =>
    have one : 1 ≤ (stringChar c).length := by
      rcases stringChar_cases c with ⟨plain, -⟩ | ⟨escape, escaped, -⟩
      · rw [plain]; exact Nat.le_refl 1
      · rw [escaped]; exact Nat.succ_le_succ (Nat.zero_le _)
    rw [List.flatMap_cons, List.length_append, List.length_cons]
    omega

theorem stringChars_append (s : String) (rest : List Char) :
    stringChars s ++ rest = '"' :: (s.toList.flatMap stringChar ++ '"' :: rest) := by
  rw [stringChars, List.append_assoc]
  rfl

/-- **A string** is read as itself, from behind its opening quote on. -/
theorem reads_string (s : String) (rest : List Char) :
    Reads readString (s.toList.flatMap stringChar ++ '"' :: rest) s rest := by
  have bound : s.toList.length < (s.toList.flatMap stringChar ++ '"' :: rest).length + 1 := by
    have := length_le_flatMap_stringChar s.toList
    rw [List.length_append]
    omega
  have inside := reads_chars s.toList [] rest bound
  rwa [List.reverse_nil, List.nil_append, String.ofList_toList] at inside

end Json

/-- Whether a number is read as itself wherever a value may stand. -/
def Number.ReadsBack (n : Number) : Prop :=
  ∀ rest, Json.Ends rest → Json.Reads Json.readNumber (Json.numberChars n ++ rest) n rest

namespace Json

/-! ## How a value begins -/

/-- The characters that a value can begin with. -/
def beginsValue (x : Char) : Bool :=
  ['n', 't', 'f', '"', '[', '\x7b', '-'].contains x || x.isDigit

theorem beginsValue_of_sign_or_digit (h : x = '-' ∨ x.isDigit = true) : beginsValue x = true := by
  rcases h with rfl | digit
  · decide
  · rw [beginsValue, digit, Bool.or_true]

theorem not_isWhitespace_of_beginsValue (h : beginsValue x = true) : x.isWhitespace = false := by
  by_contra blank
  simp only [Char.isWhitespace, Bool.not_eq_false, Bool.or_eq_true, decide_eq_true_eq] at blank
  rcases blank with ((rfl | rfl) | rfl) | rfl <;> exact absurd h (by decide)

theorem exists_of_reads_number {n : Number} (h : Reads readNumber text n rest) :
    ∃ x more, text = x :: more ∧ (x = '-' ∨ x.isDigit = true) := by
  obtain ⟨q, hq⟩ := h ⟨1, 0⟩
  cases text with
  | nil => cases hq
  | cons x more =>
    refine ⟨x, more, rfl, ?_⟩
    by_contra other
    obtain ⟨sign, digit⟩ := not_or.1 other
    rw [readNumber, if_neg (by simpa using sign), readUnsigned] at hq
    simp [digit] at hq

/-- Every value begins with one of these characters. -/
theorem exists_chars_eq_cons (v : Json) (hn : ∀ n, v = .num n → n.ReadsBack) :
    ∃ x more, v.chars = x :: more ∧ beginsValue x = true := by
  match v with
  | .null | .bool true | .bool false | .str _ | .arr [] | .arr (_ :: _) | .obj []
  | .obj ((_, _) :: _) => exact ⟨_, _, rfl, by decide⟩
  | .num n =>
    have reads := hn n rfl [] nofun
    rw [List.append_nil] at reads
    obtain ⟨x, more, text, hx⟩ := exists_of_reads_number reads
    exact ⟨x, more, text, beginsValue_of_sign_or_digit hx⟩

/-! ## Scalars -/

theorem Reads.number {n : Number} (h : Reads readNumber text n rest) :
    Reads (readValue (fuel + 1) depth) text (.num n) rest := by
  intro p
  obtain ⟨q, hq⟩ := h p
  obtain ⟨x, more, rfl, hx⟩ := exists_of_reads_number h
  have nonblank := not_isWhitespace_of_beginsValue (beginsValue_of_sign_or_digit hx)
  refine ⟨q, ?_⟩
  rw [readValue, Cursor.skipBlank_cons nonblank]
  dsimp only
  split
  case h_8 h =>
    obtain ⟨rfl, rfl⟩ := List.cons.inj h
    rw [if_pos (by simpa using hx), hq]
    rfl
  case h_1 h => cases h
  all_goals
    next h =>
    obtain ⟨rfl, rfl⟩ := List.cons.inj h
    exact absurd hx (by decide)

theorem Reads.string {s : String} (h : Reads readString text s rest) :
    Reads (readValue (fuel + 1) depth) ('"' :: text) (.str s) rest := by
  intro p
  obtain ⟨q, inside⟩ := h (p.after '"')
  refine ⟨q, ?_⟩
  show (readString ⟨p.after '"', text⟩ >>= _) = _
  rw [inside]
  rfl

theorem reads_null (rest : List Char) :
    Reads (readValue (fuel + 1) depth) (chars .null ++ rest) .null rest := fun _ => ⟨_, rfl⟩

theorem reads_bool (b : Bool) (rest : List Char) :
    Reads (readValue (fuel + 1) depth) (chars (.bool b) ++ rest) (.bool b) rest := by
  cases b <;> exact fun _ => ⟨_, rfl⟩

/-! ## Items and members -/

theorem reads_last_item (first : Bool) (rest : List Char) :
    Reads (nextItem first) (']' :: rest) false (']' :: rest) := fun _ => ⟨_, rfl⟩

theorem reads_first_item (h : beginsValue x = true) :
    Reads (nextItem true) (x :: cs) true (x :: cs) := by
  intro p
  refine ⟨p, ?_⟩
  rw [nextItem, Cursor.skipBlank_cons (not_isWhitespace_of_beginsValue h)]
  dsimp only
  split
  case h_3 => rfl
  case h_1 h => cases h
  case h_2 hx =>
    obtain ⟨rfl, -⟩ := List.cons.inj hx
    exact absurd h (by decide)

theorem reads_next_item (h : beginsValue x = true) :
    Reads (nextItem false) (',' :: x :: cs) true (x :: cs) := by
  intro p
  refine ⟨p.after ',', ?_⟩
  have comma : Cursor.skipBlank ⟨p, ',' :: x :: cs⟩ = ⟨p, ',' :: x :: cs⟩ :=
    Cursor.skipBlank_cons (by decide) _ _
  have next : Cursor.skipBlank (Cursor.next ⟨p, ',' :: x :: cs⟩) = ⟨p.after ',', x :: cs⟩ :=
    Cursor.skipBlank_cons (not_isWhitespace_of_beginsValue h) _ _
  rw [nextItem, comma]
  dsimp only
  split
  case h_1 h => cases h
  case h_2 hx => exact absurd (List.cons.inj hx).1 (by decide)
  case h_3 hx =>
  obtain ⟨rfl, rfl⟩ := List.cons.inj hx
  rw [if_neg Bool.false_ne_true, if_pos rfl, next]
  split
  case h_3 => rfl
  case h_1 h => cases h
  case h_2 hx =>
    obtain ⟨rfl, -⟩ := List.cons.inj hx
    exact absurd h (by decide)

theorem Reads.items {first : Bool} {x : Json} {xs : List Json} {item others : List Char}
    (hnext : Reads (nextItem first) text true item)
    (hitem : Reads (readValue fuel depth) item x others)
    (hothers : Reads (readItems fuel depth false) others xs rest) :
    Reads (readItems (fuel + 1) depth first) text (x :: xs) rest := by
  intro p
  obtain ⟨p₁, hnext⟩ := hnext p
  obtain ⟨p₂, hitem⟩ := hitem p₁
  obtain ⟨p₃, hothers⟩ := hothers p₂
  refine ⟨p₃, ?_⟩
  rw [readItems, hnext]
  show (readValue fuel depth ⟨p₁, item⟩ >>= _) = _
  rw [hitem]
  show (readItems fuel depth false ⟨p₂, others⟩ >>= _) = _
  rw [hothers]
  rfl

theorem Reads.noItems {first : Bool} (next : Reads (nextItem first) text false rest) :
    Reads (readItems (fuel + 1) depth first) text [] rest := by
  intro p
  obtain ⟨q, next⟩ := next p
  refine ⟨q, ?_⟩
  rw [readItems, next]
  rfl

theorem reads_last_key (first : Bool) (rest : List Char) :
    Reads (nextKey first) ('\x7d' :: rest) false ('\x7d' :: rest) := fun _ => ⟨_, rfl⟩

theorem reads_first_key (cs : List Char) :
    Reads (nextKey true) ('"' :: cs) true ('"' :: cs) := fun _ => ⟨_, rfl⟩

theorem reads_next_key (cs : List Char) :
    Reads (nextKey false) (',' :: '"' :: cs) true ('"' :: cs) := fun _ => ⟨_, rfl⟩

theorem Reads.noMembers {first : Bool} (next : Reads (nextKey first) text false rest) :
    Reads (readMembers (fuel + 1) depth first) text [] rest := by
  intro p
  obtain ⟨q, next⟩ := next p
  refine ⟨q, ?_⟩
  rw [readMembers, next]
  rfl

theorem Reads.members {first : Bool} {k : String} {v : Json} {ms : Members}
    {key value others : List Char} (hnext : Reads (nextKey first) text true ('"' :: key))
    (hkey : Reads readString key k (':' :: value))
    (hvalue : Reads (readValue fuel depth) value v others)
    (hothers : Reads (readMembers fuel depth false) others ms rest) :
    Reads (readMembers (fuel + 1) depth first) text ((k, v) :: ms) rest := by
  intro p
  obtain ⟨p₁, hnext⟩ := hnext p
  obtain ⟨p₂, hkey⟩ := hkey (p₁.after '"')
  obtain ⟨p₃, hvalue⟩ := hvalue (p₂.after ':')
  obtain ⟨p₄, hothers⟩ := hothers p₃
  refine ⟨p₄, ?_⟩
  rw [readMembers, hnext]
  show (readString ⟨p₁.after '"', key⟩ >>= _) = _
  rw [hkey]
  show (readValue fuel depth ⟨p₂.after ':', value⟩ >>= _) = _
  rw [hvalue]
  show (readMembers fuel depth false ⟨p₃, others⟩ >>= _) = _
  rw [hothers]
  rfl

theorem Reads.arr {xs : List Json} (h : 1 < depth)
    (items : Reads (readItems fuel (depth - 1) true) text xs (']' :: rest)) :
    Reads (readValue (fuel + 1) depth) ('[' :: text) (.arr xs) rest := by
  intro p
  obtain ⟨q, items⟩ := items (p.after '[')
  refine ⟨q.after ']', ?_⟩
  show (if depth ≤ 1 then _ else readItems fuel (depth - 1) true ⟨p.after '[', text⟩ >>= _) = _
  rw [if_neg (Nat.not_le.2 h), items]
  rfl

theorem Reads.obj {ms : Members} (h : 1 < depth)
    (members : Reads (readMembers fuel (depth - 1) true) text ms ('\x7d' :: rest)) :
    Reads (readValue (fuel + 1) depth) ('\x7b' :: text) (.obj ms) rest := by
  intro p
  obtain ⟨q, members⟩ := members (p.after '\x7b')
  refine ⟨q.after '\x7d', ?_⟩
  show (if depth ≤ 1 then _ else
    readMembers fuel (depth - 1) true ⟨p.after '\x7b', text⟩ >>= _) = _
  rw [if_neg (Nat.not_le.2 h), members]
  rfl

/-! ## Values -/

mutual

/-- How many brackets are open at once in a text of the value. -/
def brackets : Json → Nat
  | .arr xs => 1 + bracketsItems xs
  | .obj ms => 1 + bracketsMembers ms
  | _ => 0

def bracketsItems : List Json → Nat
  | [] => 0
  | x :: xs => max (brackets x) (bracketsItems xs)

def bracketsMembers : List (String × Json) → Nat
  | [] => 0
  | (_, v) :: ms => max (brackets v) (bracketsMembers ms)

end

theorem ends_itemChars (xs : List Json) (rest : List Char) : Ends (itemChars xs ++ rest) := by
  cases xs <;> (rintro c ⟨⟩; simp)

theorem ends_memberChars (ms : Members) (rest : List Char) : Ends (memberChars ms ++ rest) := by
  rcases ms with _ | ⟨⟨k, v⟩, ms⟩ <;> (rintro c ⟨⟩; simp)

theorem length_itemChars_pos (xs : List Json) : 0 < (itemChars xs).length := by
  cases xs <;> exact Nat.succ_pos _

theorem length_memberChars_pos (ms : Members) : 0 < (memberChars ms).length := by
  rcases ms with _ | ⟨⟨k, v⟩, ms⟩ <;> exact Nat.succ_pos _

theorem length_chars_pos (v : Json) (hn : ∀ n, v = .num n → n.ReadsBack) : 0 < v.chars.length := by
  obtain ⟨x, more, text, -⟩ := exists_chars_eq_cons v hn
  rw [text]
  exact Nat.succ_pos _

theorem chars_arr_append (x : Json) (xs : List Json) (rest : List Char) :
    (Json.arr (x :: xs)).chars ++ rest = '[' :: (x.chars ++ (itemChars xs ++ rest)) := by
  simp [chars]

theorem itemChars_append (x : Json) (xs : List Json) (rest : List Char) :
    itemChars (x :: xs) ++ rest = ',' :: (x.chars ++ (itemChars xs ++ rest)) := by
  simp [itemChars]

theorem chars_obj_append (k : String) (v : Json) (ms : Members) (rest : List Char) :
    (Json.obj ((k, v) :: ms)).chars ++ rest = '\x7b' :: '"' ::
      (k.toList.flatMap stringChar ++ '"' :: ':' :: (v.chars ++ (memberChars ms ++ rest))) := by
  simp [chars, stringChars]

theorem memberChars_append (k : String) (v : Json) (ms : Members) (rest : List Char) :
    memberChars ((k, v) :: ms) ++ rest = ',' :: '"' ::
      (k.toList.flatMap stringChar ++ '"' :: ':' :: (v.chars ++ (memberChars ms ++ rest))) := by
  simp [memberChars, stringChars]

/-! ## Reading -/

mutual

/-- **A value** is read as itself, wherever a value may stand. -/
theorem reads_value {fuel depth : Nat} (v : Json)
    (hn : ∀ n, .num n ∈ v.values → n.ReadsBack) (hd : v.brackets < depth)
    (hf : v.chars.length ≤ fuel) (rest : List Char) (h : Ends rest) :
    Reads (readValue fuel depth) (v.chars ++ rest) v rest := by
  have some := length_chars_pos v fun n hv => hn n (hv ▸ self_mem_values v)
  obtain ⟨fuel, rfl⟩ := Nat.exists_eq_add_one_of_ne_zero (show fuel ≠ 0 by omega)
  match v with
  | .null => exact reads_null rest
  | .bool b => exact reads_bool b rest
  | .num n => exact (hn n (self_mem_values _) rest h).number
  | .str s =>
    show Reads _ (stringChars s ++ rest) _ _
    rw [stringChars_append]
    exact (reads_string s rest).string
  | .arr [] =>
    have two : 2 ≤ fuel + 1 := hf
    obtain ⟨fuel, rfl⟩ := Nat.exists_eq_add_one_of_ne_zero (show fuel ≠ 0 by omega)
    exact .arr hd (.noItems (reads_last_item true rest))
  | .arr (x :: xs) =>
    have hx (n) (h : .num n ∈ x.values) := hn n (mem_values_arr List.mem_cons_self h)
    have hxs (n) (h : .num n ∈ valuesItems xs) :=
      hn n (List.mem_cons_of_mem _ (List.mem_append_right _ h))
    have scalar (n) (e : x = .num n) : n.ReadsBack := hx n (e ▸ self_mem_values x)
    obtain ⟨y, more, first, begins⟩ := exists_chars_eq_cons x scalar
    have item := length_chars_pos x scalar
    have others := length_itemChars_pos xs
    simp only [chars, List.cons_append, List.length_cons, List.length_append] at hf
    simp only [brackets, bracketsItems] at hd
    obtain ⟨fuel, rfl⟩ := Nat.exists_eq_add_one_of_ne_zero (show fuel ≠ 0 by omega)
    rw [chars_arr_append]
    refine .arr (by omega) (.items ?_
      (reads_value x hx (by omega) (by omega) _ (ends_itemChars xs rest))
      (reads_items xs hxs (by omega) (by omega) rest))
    rw [first]
    exact reads_first_item begins
  | .obj [] =>
    have two : 2 ≤ fuel + 1 := hf
    obtain ⟨fuel, rfl⟩ := Nat.exists_eq_add_one_of_ne_zero (show fuel ≠ 0 by omega)
    exact .obj hd (.noMembers (reads_last_key true rest))
  | .obj ((k, v) :: ms) =>
    have hv (n) (h : .num n ∈ v.values) := hn n (mem_values_obj List.mem_cons_self h)
    have hms (n) (h : .num n ∈ valuesMembers ms) :=
      hn n (List.mem_cons_of_mem _ (List.mem_append_right _ h))
    have value := length_chars_pos v fun n e => hv n (e ▸ self_mem_values v)
    have others := length_memberChars_pos ms
    simp only [chars, List.cons_append, List.length_cons, List.length_append] at hf
    simp only [brackets, bracketsMembers] at hd
    obtain ⟨fuel, rfl⟩ := Nat.exists_eq_add_one_of_ne_zero (show fuel ≠ 0 by omega)
    rw [chars_obj_append]
    exact .obj (by omega) (.members (reads_first_key _) (reads_string k _)
      (reads_value v hv (by omega) (by omega) _ (ends_memberChars ms rest))
      (reads_members ms hms (by omega) (by omega) rest))

theorem reads_items {fuel depth : Nat} (xs : List Json)
    (hn : ∀ n, .num n ∈ valuesItems xs → n.ReadsBack) (hd : bracketsItems xs < depth)
    (hf : (itemChars xs).length ≤ fuel) (rest : List Char) :
    Reads (readItems fuel depth false) (itemChars xs ++ rest) xs (']' :: rest) := by
  have some := length_itemChars_pos xs
  obtain ⟨fuel, rfl⟩ := Nat.exists_eq_add_one_of_ne_zero (show fuel ≠ 0 by omega)
  match xs with
  | [] => exact .noItems (reads_last_item false rest)
  | x :: xs =>
    have hx (n) (h : .num n ∈ x.values) := hn n (List.mem_append_left _ h)
    have hxs (n) (h : .num n ∈ valuesItems xs) := hn n (List.mem_append_right _ h)
    have scalar (n) (e : x = .num n) : n.ReadsBack := hx n (e ▸ self_mem_values x)
    obtain ⟨y, more, first, begins⟩ := exists_chars_eq_cons x scalar
    simp only [itemChars, List.cons_append, List.length_cons, List.length_append] at hf
    simp only [bracketsItems] at hd
    rw [itemChars_append]
    refine .items ?_ (reads_value x hx (by omega) (by omega) _ (ends_itemChars xs rest))
      (reads_items xs hxs (by omega) (by omega) rest)
    rw [first]
    exact reads_next_item begins

theorem reads_members {fuel depth : Nat} (ms : Members)
    (hn : ∀ n, .num n ∈ valuesMembers ms → n.ReadsBack) (hd : bracketsMembers ms < depth)
    (hf : (memberChars ms).length ≤ fuel) (rest : List Char) :
    Reads (readMembers fuel depth false) (memberChars ms ++ rest) ms ('\x7d' :: rest) := by
  have some := length_memberChars_pos ms
  obtain ⟨fuel, rfl⟩ := Nat.exists_eq_add_one_of_ne_zero (show fuel ≠ 0 by omega)
  match ms with
  | [] => exact .noMembers (reads_last_key false rest)
  | (k, v) :: ms =>
    have hv (n) (h : .num n ∈ v.values) := hn n (List.mem_append_left _ h)
    have hms (n) (h : .num n ∈ valuesMembers ms) := hn n (List.mem_append_right _ h)
    simp only [memberChars, List.cons_append, List.length_cons, List.length_append] at hf
    simp only [bracketsMembers] at hd
    rw [memberChars_append]
    exact .members (reads_next_key _) (reads_string k _)
      (reads_value v hv (by omega) (by omega) _ (ends_memberChars ms rest))
      (reads_members ms hms (by omega) (by omega) rest)

end

/-! ## Whole texts -/

/-- Whether the compact text of a value is read as the value. -/
def ReadsBack (v : Json) : Prop := parseChars v.chars = .ok v

instance (v : Json) : Decidable v.ReadsBack :=
  inferInstanceAs (Decidable (parseChars v.chars = .ok v))

/-- What a compact text keeps: no object repeats a key, numbers are whole and of 64 bits, and no
more brackets are open at once than the reader allows. -/
structure Kept (v : Json) : Prop where
  settled : v.Settled
  numbers : ∀ n, .num n ∈ v.values →
    ∃ i : Int, n = .int i ∧ -(Nat.pow 2 63 : Nat) ≤ i ∧ i < (Nat.pow 2 64 : Nat)
  nesting : v.brackets < depthLimit

/-- **Reading back.** A value without repeated keys is read back, if its numbers are and it is not
nested too deeply. -/
theorem readsBack_of_numbers {v : Json} (hs : v.Settled)
    (hn : ∀ n, .num n ∈ v.values → n.ReadsBack) (hd : v.brackets < depthLimit) : v.ReadsBack := by
  have fuel : v.chars.length ≤ 2 * v.chars.length + 2 := by omega
  obtain ⟨q, value⟩ := reads_value v hn hd fuel [] nofun ⟨1, 0⟩
  rw [List.append_nil] at value
  rw [ReadsBack, parseChars, Cursor.start, value]
  show Except.ok v.settle = _
  rw [hs]

theorem Kept.readsBack {v : Json} (h : v.Kept) : v.ReadsBack :=
  readsBack_of_numbers h.settled
    (fun n hn => by
      obtain ⟨i, rfl, low, high⟩ := h.numbers n hn
      exact fun rest ends => reads_int ends low high)
    h.nesting

end Json

end EntitySchema
