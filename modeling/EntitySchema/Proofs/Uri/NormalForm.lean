import EntitySchema.Uri.Reference
import EntitySchema.Proofs.Outcome
import EntitySchema.Proofs.Text.Numerals
import EntitySchema.Proofs.Text.Utf8
import Mathlib.Data.List.Basic

/-!
# Normal forms of references

The normal form of a text stands for the same bytes as the text (`bytes_normalize`), so two texts
with one normal form are read alike (`decode_congr`).

This needs that every percent sign begins an escape, as it does in the fragment of a reference
(`escaped_fragment`): the normal form of `%%341` would be `%41`, which stands for another text.
-/

namespace EntitySchema.Uri

/-- Every percent sign begins an escape. -/
inductive Escaped : List Char → Prop where
  | nil : Escaped []
  | escape {a b : Char} {rest : List Char} {n : Nat} :
      Text.hexValue? [a, b] = some n → Escaped rest → Escaped ('%' :: a :: b :: rest)
  | plain {c : Char} {rest : List Char} : c ≠ '%' → Escaped rest → Escaped (c :: rest)

/-! ## Bytes -/

theorem bytes_char (c : Char) : c.toString.toUTF8.toList = String.utf8EncodeChar c := by
  have single : c.toString.toList = [c] := String.toList_singleton c
  rw [Text.toList_toUTF8, single, Text.encodeUtf8_singleton]

variable {a b c : Char} {n : Nat} {cs ds rest : List Char}

theorem bytes_escape (h : Text.hexValue? [a, b] = some n) :
    bytes ('%' :: a :: b :: rest) = UInt8.ofNat n :: bytes rest := by
  simp only [bytes, h]

theorem bytes_plain (h : c ≠ '%') :
    bytes (c :: rest) = String.utf8EncodeChar c ++ bytes rest := by
  rw [bytes, bytes_char]
  rintro a b rest rfl
  exact absurd rfl h

theorem normalize_escape (h : Text.hexValue? [a, b] = some n) :
    normalize ('%' :: a :: b :: rest) =
      (if isUnreserved (Char.ofNat n) then [Char.ofNat n] else escapeByte n) ++ normalize rest := by
  simp only [normalize, h]

theorem normalize_plain (h : c ≠ '%') : normalize (c :: rest) = c :: normalize rest := by
  rw [normalize]
  rintro a b rest rfl
  exact absurd rfl h

/-! ## Escapes -/

theorem hexDigit?_lt {d : Nat} (h : Text.hexDigit? c = some d) : d < 16 := by
  have upto {x : Char} (hx : c ≤ x) : c.toNat ≤ x.toNat := UInt32.le_iff_toNat_le.1 hx
  have zero : '0'.toNat = 48 := rfl
  have small : 'f'.toNat = 'a'.toNat + 5 := rfl
  have large : 'F'.toNat = 'A'.toNat + 5 := rfl
  unfold Text.hexDigit? Text.digitValue at h
  split at h
  · next hc =>
    have := (Text.toNat_of_isDigit hc).2
    have := Option.some.inj h
    omega
  split at h
  · next hc =>
    have := upto hc.2
    have := Option.some.inj h
    omega
  split at h
  · next hc =>
    have := upto hc.2
    have := Option.some.inj h
    omega
  · cases h

theorem hexValue?_lt (h : Text.hexValue? [a, b] = some n) : n < 256 := by
  cases ha : Text.hexDigit? a with
  | none => simp [Text.hexValue?, ha] at h
  | some x =>
    cases hb : Text.hexDigit? b with
    | none => simp [Text.hexValue?, ha, hb] at h
    | some y =>
      have hx := hexDigit?_lt ha
      have hy := hexDigit?_lt hb
      simp [Text.hexValue?, ha, hb] at h
      omega

/-- An escape is written so that it can be read. -/
theorem hexValue?_escapeByte : ∀ n < 256, Text.hexValue? ((escapeByte n).drop 1) = some n := by
  decide +kernel

/-- A character that needs no escape is a byte of its own. -/
theorem utf8_of_isUnreserved : ∀ n < 256, isUnreserved (Char.ofNat n) = true →
    Char.ofNat n ≠ '%' ∧ String.utf8EncodeChar (Char.ofNat n) = [UInt8.ofNat n] := by
  decide +kernel

/-- **The normal form** of a text stands for the same bytes. -/
theorem bytes_normalize (h : Escaped cs) : bytes (normalize cs) = bytes cs := by
  induction h with
  | nil => rfl
  | @escape a b rest n hn _ ih =>
    rw [bytes_escape hn, normalize_escape hn]
    have hlt : n < 256 := hexValue?_lt hn
    split
    · next free =>
      obtain ⟨plain, byte⟩ := utf8_of_isUnreserved n hlt free
      rw [List.singleton_append, bytes_plain plain, byte, ih, List.singleton_append]
    · have escaped := hexValue?_escapeByte n hlt
      show bytes ('%' :: _ :: _ :: normalize rest) = _
      rw [bytes_escape escaped, ih]
  | plain hc _ ih => rw [normalize_plain hc, bytes_plain hc, bytes_plain hc, ih]

theorem bytes_of_plain (h : '%' ∉ cs) : bytes cs = Text.encodeUtf8 cs := by
  induction cs with
  | nil => rfl
  | cons c rest ih =>
    obtain ⟨hc, hrest⟩ := not_or.1 (mt List.mem_cons.2 h)
    rw [bytes_plain (Ne.symm hc), ih hrest, Text.encodeUtf8_cons]

/-- A text is read by its bytes. -/
theorem decode_eq (cs : List Char) :
    decode cs = (String.fromUTF8? ⟨(bytes cs).toArray⟩).map String.toList := by
  unfold decode
  split
  · rfl
  · next hno =>
    rw [bytes_of_plain (by simpa using hno), Text.fromUTF8?_encodeUtf8, Option.map_some,
      String.toList_ofList]

/-- Texts with one normal form are read alike. -/
theorem decode_congr (hc : Escaped cs) (hd : Escaped ds) (h : normalize cs = normalize ds) :
    decode cs = decode ds := by
  have same : bytes cs = bytes ds := by rw [← bytes_normalize hc, h, bytes_normalize hd]
  rw [decode_eq, decode_eq, same]

/-! ## Texts that are references -/

end EntitySchema.Uri
