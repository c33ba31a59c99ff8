import EntitySchema.Proofs.Text.Lines
import Mathlib.Data.List.Induction
import Mathlib.Data.String.Basic

/-!
# Texts as bytes

Three facts on UTF-8. Bytes of a text read back as the text (`fromUTF8?_encodeUtf8`). A byte below
128 is a character of its own and no part of another one, so a text may be cut into lines before or
after its bytes are read (`byteLines_encodeUtf8`). And the bytes of texts are ordered as the texts
are (`encodeUtf8_lt_iff`, `toUTF8_lt_iff`), since longer characters begin with larger bytes.
-/

namespace EntitySchema.Text

/-- The bytes of a text. -/
def encodeUtf8 (cs : List Char) : List UInt8 := cs.flatMap String.utf8EncodeChar

variable {c d : Char} {cs ds : List Char} {b : UInt8}

theorem encodeUtf8_cons (c : Char) (cs : List Char) :
    encodeUtf8 (c :: cs) = String.utf8EncodeChar c ++ encodeUtf8 cs := List.flatMap_cons

theorem encodeUtf8_append (cs ds : List Char) :
    encodeUtf8 (cs ++ ds) = encodeUtf8 cs ++ encodeUtf8 ds := List.flatMap_append

theorem encodeUtf8_singleton (c : Char) : encodeUtf8 [c] = String.utf8EncodeChar c :=
  List.flatMap_singleton ..

/-! ## Byte arrays -/

theorem toList_byteArray (bs : ByteArray) : bs.toList = bs.data.toList := by
  have loop (i : Nat) (acc : List UInt8) :
      ByteArray.toList.loop bs i acc = acc.reverse ++ bs.data.toList.drop i := by
    fun_induction ByteArray.toList.loop bs i acc with
    | case1 i acc h ih =>
      have bound : i < bs.data.toList.length := by simpa using h
      rw [ih, List.drop_eq_getElem_cons bound]
      simp [ByteArray.get!, getElem!_pos, h]
    | case2 i acc h =>
      have bound : bs.data.toList.length ≤ i := by simpa using h
      rw [List.drop_eq_nil_of_le bound, List.append_nil]
  rw [ByteArray.toList, loop]
  rfl

theorem toList_toUTF8 (s : String) : s.toUTF8.toList = encodeUtf8 s.toList := by
  rw [toList_byteArray, String.toUTF8_eq_toByteArray, ← String.utf8Encode_toList, List.utf8Encode,
    List.toList_data_toByteArray, encodeUtf8]

theorem fromUTF8?_toUTF8 (s : String) : String.fromUTF8? s.toUTF8 = some s := by
  unfold String.fromUTF8?
  rw [String.toUTF8_eq_toByteArray, dif_pos s.isValidUTF8]
  rfl

/-- **Bytes of a text** read back as the text. -/
theorem fromUTF8?_encodeUtf8 (cs : List Char) :
    String.fromUTF8? ⟨(encodeUtf8 cs).toArray⟩ = some (String.ofList cs) := by
  have bytes : (⟨(encodeUtf8 cs).toArray⟩ : ByteArray) = (String.ofList cs).toUTF8 := by
    rw [String.toUTF8, String.toByteArray_ofList, List.utf8Encode]
    exact ByteArray.ext List.data_toByteArray.symm
  rw [bytes, fromUTF8?_toUTF8]

/-! ## Small characters -/

theorem toNat_byte {n : Nat} (h : n < 256) : (UInt8.ofNat n).toNat = n := by
  rw [UInt8.toNat_ofNat', Nat.mod_eq_of_lt h]

theorem utf8EncodeChar_of_lt (h : c.toNat < 128) :
    String.utf8EncodeChar c = [UInt8.ofNat c.toNat] := by
  have small : c.val.toNat ≤ 127 := Nat.le_of_lt_succ h
  rw [String.utf8EncodeChar, if_pos small]
  rfl

theorem le_of_mem_utf8EncodeChar (h : 128 ≤ c.toNat) (hb : b ∈ String.utf8EncodeChar c) :
    128 ≤ b.toNat := by
  have large : ¬ c.val.toNat ≤ 127 := Nat.not_le_of_gt h
  rw [String.utf8EncodeChar, if_neg large] at hb
  split_ifs at hb <;> simp only [List.mem_cons, List.not_mem_nil, or_false] at hb <;>
    rcases hb with rfl | rfl | rfl | rfl <;> rw [toNat_byte (by omega)] <;> omega

/-- A byte below 128 occurs in no character but its own. -/
theorem mem_utf8EncodeChar (hd : d.toNat < 128) :
    UInt8.ofNat d.toNat ∈ String.utf8EncodeChar c ↔ c = d := by
  constructor
  · intro hb
    rcases Nat.lt_or_ge c.toNat 128 with h | h
    · rw [utf8EncodeChar_of_lt h, List.mem_singleton, ← UInt8.toNat_inj, toNat_byte (by omega),
        toNat_byte (by omega)] at hb
      exact Char.toNat_inj.1 hb.symm
    · have bound := le_of_mem_utf8EncodeChar h hb
      rw [toNat_byte (by omega)] at bound
      omega
  · rintro rfl
    rw [utf8EncodeChar_of_lt hd]
    exact List.mem_singleton_self _

/-! ## Lines -/

theorem getLast?_encodeUtf8 (hd : d.toNat < 128) :
    (encodeUtf8 cs).getLast? = some (UInt8.ofNat d.toNat) ↔ cs.getLast? = some d := by
  induction cs using List.reverseRecOn with
  | nil => simp [encodeUtf8]
  | append_singleton rest c _ =>
    rw [encodeUtf8_append, List.getLast?_append, List.getLast?_concat, Option.some.injEq]
    rw [encodeUtf8_singleton]
    constructor
    · intro h
      obtain ⟨last, hlast⟩ : ∃ last, (String.utf8EncodeChar c).getLast? = some last :=
        Option.isSome_iff_exists.1 (by simp)
      rw [hlast, Option.some_or, Option.some.injEq] at h
      exact (mem_utf8EncodeChar hd).1 (h ▸ List.mem_of_getLast? hlast)
    · rintro rfl
      rw [utf8EncodeChar_of_lt hd]
      rfl

theorem dropReturn_encodeUtf8 (cs : List Char) :
    dropReturn 13 (encodeUtf8 cs) = encodeUtf8 (dropReturn '\r' cs) := by
  have last : (encodeUtf8 cs).getLast? = some 13 ↔ cs.getLast? = some '\r' :=
    getLast?_encodeUtf8 (d := '\r') (by decide)
  unfold dropReturn
  by_cases h : cs.getLast? = some '\r'
  · rw [if_pos (last.2 h), if_pos h]
    obtain ⟨rest, rfl⟩ := List.getLast?_eq_some_iff.1 h
    have single : encodeUtf8 ['\r'] = [13] := by decide
    rw [encodeUtf8_append, single, List.dropLast_concat, List.dropLast_concat]
  · rw [if_neg (mt last.1 h), if_neg h]

theorem linesFrom_encodeUtf8 (started cs : List Char) :
    linesFrom 10 13 (encodeUtf8 started.reverse).reverse (encodeUtf8 cs) =
      (linesFrom '\n' '\r' started cs).map encodeUtf8 := by
  induction cs generalizing started with
  | nil =>
    cases started with
    | nil => rfl
    | cons c rest =>
      have started : ¬ (encodeUtf8 (c :: rest).reverse).reverse.isEmpty = true := by
        simp [encodeUtf8]
      show linesFrom 10 13 _ [] = _
      rw [linesFrom, if_neg started, List.reverse_reverse]
      rfl
  | cons c cs ih =>
    rw [encodeUtf8_cons, linesFrom]
    by_cases hc : c = '\n'
    · subst hc
      have feed : String.utf8EncodeChar '\n' = [10] := by decide
      rw [feed, if_pos rfl, List.singleton_append, linesFrom, if_pos rfl, List.reverse_reverse,
        dropReturn_encodeUtf8, List.map_cons]
      exact congrArg _ (ih [])
    · have other : 10 ∉ String.utf8EncodeChar c := fun hb =>
        hc ((mem_utf8EncodeChar (d := '\n') (by decide)).1 hb)
      rw [if_neg hc, linesFrom_of_not_mem other, ← ih (c :: started), List.reverse_cons,
        encodeUtf8_append, List.reverse_append, encodeUtf8_singleton]

/-- **Lines** may be cut before or after the bytes are read. -/
theorem byteLines_encodeUtf8 (cs : List Char) :
    byteLines (encodeUtf8 cs) = (charLines cs).map some := by
  have cut : lines 10 13 (encodeUtf8 cs) = (charLines cs).map encodeUtf8 :=
    linesFrom_encodeUtf8 [] cs
  rw [byteLines, cut, List.map_map]
  refine List.map_congr_left fun line _ => ?_
  rw [Function.comp_apply, fromUTF8?_encodeUtf8, Option.map_some, String.toList_ofList]

/-! ## Order -/

/-- Numbers are compared by their digits, the highest first. -/
theorem lt_digits {v w : Nat} (h : v < w) (base : Nat) :
    v / base < w / base ∨ v / base = w / base ∧ v % base < w % base := by
  rcases Nat.lt_or_eq_of_le (Nat.div_le_div_right (Nat.le_of_lt h)) with lt | eq
  · exact .inl lt
  · refine .inr ⟨eq, ?_⟩
    have hv := Nat.div_add_mod v base
    have hw := Nat.div_add_mod w base
    rw [eq] at hv
    omega

theorem lt_four_digits {v w : Nat} (h : v < w) :
    v / 262144 < w / 262144 ∨ v / 262144 = w / 262144 ∧
      (v / 4096 % 64 < w / 4096 % 64 ∨ v / 4096 % 64 = w / 4096 % 64 ∧
        (v / 64 % 64 < w / 64 % 64 ∨ v / 64 % 64 = w / 64 % 64 ∧ v % 64 < w % 64)) := by
  have second (u : Nat) : u / 64 / 64 = u / 4096 := Nat.div_div_eq_div_mul ..
  have third (u : Nat) : u / 4096 / 64 = u / 262144 := Nat.div_div_eq_div_mul ..
  rcases lt_digits h 64 with h | ⟨same, h⟩
  · have h1 := lt_digits h 64
    rw [second, second] at h1
    rcases h1 with h1 | ⟨same, h1⟩
    · have h2 := lt_digits h1 64
      rw [third, third] at h2
      omega
    · rw [← third, ← third, same]
      omega
  · rw [← third, ← third, ← second, ← second, same]
    omega

/-- A smaller character has smaller bytes, whatever follows. -/
theorem utf8EncodeChar_lt (h : c < d) (xs ys : List UInt8) :
    String.utf8EncodeChar c ++ xs < String.utf8EncodeChar d ++ ys := by
  have less : c.val.toNat < d.val.toNat := h
  have bound : d.val.toNat < 0x110000 := by
    have valid := d.valid
    rcases valid with h | h <;> omega
  unfold String.utf8EncodeChar
  dsimp only
  generalize c.val.toNat = v at *
  generalize d.val.toNat = w at *
  have digits := lt_four_digits less
  have hv : v / 262144 % 8 = v / 262144 := by omega
  have hw : w / 262144 % 8 = w / 262144 := by omega
  rw [hv, hw]
  -- The number of bytes grows with the code, and so does the first byte with their number.
  split_ifs <;> simp (disch := omega) only [List.cons_append, List.nil_append,
    List.cons_lt_cons_iff, UInt8.lt_iff_toNat_lt, ← UInt8.toNat_inj, toNat_byte] <;> omega

theorem encodeUtf8_lt (h : cs < ds) : encodeUtf8 cs < encodeUtf8 ds := by
  induction cs generalizing ds with
  | nil =>
    cases ds with
    | nil => exact absurd h (List.lt_irrefl [])
    | cons d ds =>
      rw [encodeUtf8_cons]
      obtain ⟨b, bs, bytes⟩ := List.exists_cons_of_ne_nil (String.utf8EncodeChar_ne_nil (c := d))
      rw [bytes]
      exact List.nil_lt_cons b _
  | cons c cs ih =>
    cases ds with
    | nil => exact absurd h (List.not_lt_nil _)
    | cons d ds =>
      rw [encodeUtf8_cons, encodeUtf8_cons]
      rcases List.cons_lt_cons_iff.1 h with head | ⟨rfl, tail⟩
      · exact utf8EncodeChar_lt head _ _
      · exact List.append_left_lt (ih tail)

/-- **The order of texts** is that of their bytes. -/
theorem encodeUtf8_lt_iff : encodeUtf8 cs < encodeUtf8 ds ↔ cs < ds := by
  refine ⟨fun h => ?_, encodeUtf8_lt⟩
  rcases lt_trichotomy cs ds with less | rfl | greater
  · exact less
  · exact absurd h (List.lt_irrefl _)
  · exact absurd h (List.lt_asymm (encodeUtf8_lt greater))

theorem toUTF8_lt_iff {s t : String} : s.toUTF8.toList < t.toUTF8.toList ↔ s < t := by
  rw [toList_toUTF8, toList_toUTF8, encodeUtf8_lt_iff, String.lt_iff_toList_lt]

end EntitySchema.Text
