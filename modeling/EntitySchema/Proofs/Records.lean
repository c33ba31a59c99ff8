import EntitySchema.Command.Records
import EntitySchema.Proofs.Json.Printed
import EntitySchema.Proofs.Json.ReadingBack
import EntitySchema.Proofs.Text.Utf8

/-!
# Records written and read

Values that are written one a line are read back as records, also when blank lines stand between
them (`written_values_are_records`). A compact text never leaves its line, since it holds no control
character, and it is not blank, since every text that is read as a value has a character that a
value can begin with (`Json.exists_of_parseChars`). So the lines that hold records are those that
were written.
-/

namespace EntitySchema

/-! ## Blank lines -/

namespace Text

theorem not_isBlank_of_beginsValue {x : Char} (h : Json.beginsValue x = true) :
    isBlank x = false := by
  rw [Json.beginsValue, Bool.or_eq_true] at h
  rcases h with letter | digit
  · have none : ['n', 't', 'f', '"', '[', '\x7b', '-'].any isBlank = false := by decide
    exact eq_false_of_ne_true (List.any_eq_false.1 none x (List.contains_iff_mem.1 letter))
  · obtain ⟨low, high⟩ := toNat_of_isDigit digit
    simp only [isBlank, CharRanges.has, blankRanges, List.any_cons, List.any_nil, Bool.or_false,
      Bool.or_eq_false_iff, Bool.and_eq_false_iff, decide_eq_false_iff_not]
    omega

end Text

/-- A text that is read as a value has a character that a value can begin with. -/
theorem Json.exists_of_parseChars {text : List Char} {v : Json} (h : parseChars text = .ok v) :
    ∃ x ∈ text, beginsValue x = true := by
  obtain ⟨⟨w, c⟩, hw, -⟩ := bind_eq_ok.1 h
  have inside {x : Char} {more : List Char}
      (hx : (Cursor.skipBlank (Cursor.start text)).rest = x :: more) : x ∈ text :=
    List.mem_of_mem_drop (show x ∈ (Cursor.skipBlank (Cursor.start text)).rest by simp [hx])
  rw [readValue] at hw
  dsimp only at hw
  split at hw
  case h_1 => cases hw
  case h_8 hx =>
    split at hw
    · next first => exact ⟨_, inside hx, beginsValue_of_sign_or_digit (by simpa using first)⟩
    · cases hw
  all_goals
    next hx => exact ⟨_, inside hx, by decide⟩

theorem Json.ReadsBack.not_allBlank {v : Json} (h : v.ReadsBack) :
    Text.allBlank v.chars = false := by
  obtain ⟨x, hx, begins⟩ := exists_of_parseChars h
  rw [Text.allBlank, List.all_eq_false]
  exact ⟨x, hx, by simp [Text.not_isBlank_of_beginsValue begins]⟩

/-! ## Lines -/

theorem feed_not_mem_chars (v : Json) : '\n' ∉ v.chars := fun feed =>
  absurd (v.visible_chars _ feed) (by decide)

theorem return_not_mem_chars (v : Json) : '\r' ∉ v.chars := fun ret =>
  absurd (v.visible_chars _ ret) (by decide)

/-- A text in which values are written one a line, with blank lines anywhere. -/
inductive Spaced : List Json → List Char → Prop
  | done (line : List Char) : Text.allBlank line = true → '\n' ∉ line → Spaced [] line
  | blank {vs : List Json} (line : List Char) {text : List Char} : Text.allBlank line = true →
      '\n' ∉ line → Spaced vs text → Spaced vs (line ++ '\n' :: text)
  | value (v : Json) {vs : List Json} {text : List Char} :
      Spaced vs text → Spaced (v :: vs) (writeLine v ++ text)

theorem spaced_lines (vs : List Json) : Spaced vs (vs.flatMap writeLine) := by
  induction vs with
  | nil => exact .done [] rfl List.not_mem_nil
  | cons v vs ih =>
    rw [List.flatMap_cons]
    exact .value v ih

theorem Text.allBlank_dropReturn {line : List Char} (h : allBlank line = true) :
    allBlank (dropReturn '\r' line) = true := by
  rw [dropReturn]
  split
  · exact List.all_eq_true.2 fun c hc => List.all_eq_true.1 h c (List.dropLast_subset _ hc)
  · exact h

/-- A blank line holds no record. -/
theorem readRecords_blank {line : List Char} (h : Text.allBlank line = true) (hl : '\n' ∉ line)
    (text : List Char) : readRecords (line ++ '\n' :: text) = readRecords text := by
  have skipped : isRecordLine (some (Text.dropReturn '\r' line)) = false := by
    rw [isRecordLine, Text.allBlank_dropReturn h]
    rfl
  rw [readRecords, Text.charLines, Text.lines_append _ _ _ _ hl, List.map_cons, recordsOfLines,
    List.filter_cons_of_neg (by simp [skipped])]
  rfl

/-- The line that a value is written on holds a record. -/
theorem readRecords_writeLine {v : Json} (h : v.ReadsBack) (text : List Char) :
    readRecords (writeLine v ++ text) = .ok v :: readRecords text := by
  have kept : isRecordLine (some v.chars) = true := by
    rw [isRecordLine, h.not_allBlank]
    rfl
  have record : readRecord (some v.chars) = .ok v := by
    rw [readRecord, show Json.parseChars v.chars = .ok v from h]
    rfl
  rw [writeLine, List.append_assoc, List.singleton_append, readRecords, Text.charLines,
    Text.lines_append _ _ _ _ (feed_not_mem_chars v),
    Text.dropReturn_of_not_mem (return_not_mem_chars v), List.map_cons, recordsOfLines,
    List.filter_cons_of_pos kept, List.map_cons, record]
  rfl

/-- A blank text without a line feed holds no record. -/
theorem readRecords_of_allBlank {line : List Char} (h : Text.allBlank line = true)
    (hl : '\n' ∉ line) : readRecords line = [] := by
  have whole : Text.linesFrom '\n' '\r' [] (line ++ []) =
      Text.linesFrom '\n' '\r' (line.reverse ++ []) [] := Text.linesFrom_of_not_mem hl [] []
  rw [List.append_nil, List.append_nil] at whole
  rw [readRecords, Text.charLines, Text.lines, whole, Text.linesFrom]
  split
  · rfl
  · have skipped : isRecordLine (some line) = false := by
      rw [isRecordLine, h]
      rfl
    rw [List.reverse_reverse, List.map_singleton, recordsOfLines,
      List.filter_cons_of_neg (by simp [skipped])]
    rfl

theorem readRecords_spaced {vs : List Json} {text : List Char} (h : Spaced vs text)
    (hv : ∀ v ∈ vs, v.ReadsBack) : readRecords text = vs.map .ok := by
  induction h with
  | done _ blank feed => exact readRecords_of_allBlank blank feed
  | blank _ blank feed _ ih => rw [readRecords_blank blank feed, ih hv]
  | value _ _ ih =>
    obtain ⟨first, others⟩ := List.forall_mem_cons.1 hv
    rw [readRecords_writeLine first, ih others, List.map_cons]

theorem readRecordBytes_toUTF8 (text : String) :
    readRecordBytes text.toUTF8.toList = readRecords text.toList := by
  rw [readRecordBytes, Text.toList_toUTF8, Text.byteLines_encodeUtf8, readRecords]

/-- **Lines written are records read.** Values whose compact texts are read as the values, written
one a line, are read back in order, wherever blank lines are put between the lines; it does not
matter whether the text is cut into lines as characters or as bytes. The values in which no object
repeats a key, all numbers are whole and of 64 bits, and no more than 127 brackets are open at once
are among them. -/
theorem written_values_are_records :
    (∀ v : Json, v.Kept → v.ReadsBack) ∧
    ∀ vs : List Json, (∀ v ∈ vs, v.ReadsBack) →
      Spaced vs (vs.flatMap writeLine) ∧
      ∀ text, Spaced vs text → readRecords text = vs.map .ok ∧
        readRecordBytes (String.ofList text).toUTF8.toList = vs.map .ok := by
  refine ⟨fun v h => h.readsBack, fun vs hvs => ⟨spaced_lines vs, fun text spaced => ?_⟩⟩
  have records := readRecords_spaced spaced hvs
  exact ⟨records, by rw [readRecordBytes_toUTF8, String.toList_ofList, records]⟩

/-- A record with a line feed in its key. -/
def Json.brokenKey : Json := .obj [("a\nb", .arr [.num (.int (-7)), .null])]

/-- A record that is a binary64, and has no whole numbers. -/
def Json.oneAndAHalf : Json := .num (.real ⟨false, 3 * Nat.pow 2 51, -52⟩)

theorem spaced_values_are_records :
    Spaced [.brokenKey, .oneAndAHalf]
      "\x7b\"a\\nb\":[-7,null]\x7d\n \u00a0\r\n1.5\n\t".toList ∧
    readRecordBytes "\x7b\"a\\nb\":[-7,null]\x7d\n \u00a0\r\n1.5\n\t".toUTF8.toList =
      [.ok .brokenKey, .ok .oneAndAHalf] := by
  have kept : Json.brokenKey.Kept := by
    refine ⟨by decide, fun n hn => ⟨-7, ?_, by decide, by decide⟩, by decide⟩
    simpa [Json.brokenKey, Json.values, Json.valuesItems, Json.valuesMembers] using hn
  have half : Json.oneAndAHalf.ReadsBack := by decide +kernel
  have spaced : Spaced [.brokenKey, .oneAndAHalf]
      "\x7b\"a\\nb\":[-7,null]\x7d\n \u00a0\r\n1.5\n\t".toList :=
    .value .brokenKey (.blank [' ', '\u00a0', '\r'] (by decide) (by decide)
      (.value .oneAndAHalf (.done ['\t'] (by decide) (by decide))))
  have both : ∀ v ∈ [Json.brokenKey, Json.oneAndAHalf], v.ReadsBack :=
    List.forall_mem_cons.2 ⟨written_values_are_records.1 _ kept, List.forall_mem_singleton.2 half⟩
  exact ⟨spaced, ((written_values_are_records.2 _ both).2 _ spaced).2⟩

end EntitySchema
