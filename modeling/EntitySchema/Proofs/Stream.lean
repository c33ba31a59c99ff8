import EntitySchema.Proofs.Records
import EntitySchema.Proofs.Transparency

/-!
# Validating a stream of records

The verdict on a line depends on the entity and on the line, and on nothing that was validated
before (`records_are_judged_by_line`). A model on its way through a stream does carry validators
from one record to the next, but what it says is what a new model says (`Model.judge_eq`), so the
loop over the records is a loop without a state (`Model.judgeAll_eq`, `untilError`). What is known
of such loops then holds of the stream: they stop at the first error, and two of them after one
another are one.
-/

namespace EntitySchema

/-! ## Loops that stop at the first error -/

section
variable {α β γ ε : Type} {f : α → Except ε β} {xs : List α}

/-- The results on the items of a list, up to the first error. -/
def untilError (f : α → Except ε β) : List α → List β × Except ε Unit
  | [] => ([], .ok ())
  | x :: xs => match f x with
    | .error e => ([], .error e)
    | .ok y => (y :: (untilError f xs).1, (untilError f xs).2)

theorem untilError_map (f : α → Except ε β) (g : γ → α) (zs : List γ) :
    untilError f (zs.map g) = untilError (fun z => f (g z)) zs := by
  induction zs with
  | nil => rfl
  | cons z zs ih => rw [List.map_cons, untilError, untilError, ih]

/-- Every item before the one that fails has a result. -/
theorem untilError_cases (f : α → Except ε β) (xs : List α) : ∃ good rest,
    xs = good ++ rest ∧ List.Forall₂ (fun x y => f x = .ok y) good (untilError f xs).1 ∧
    ((rest = [] ∧ (untilError f xs).2 = .ok ()) ∨
      ∃ bad more e, rest = bad :: more ∧ f bad = .error e ∧ (untilError f xs).2 = .error e) := by
  induction xs with
  | nil => exact ⟨[], [], rfl, .nil, .inl ⟨rfl, rfl⟩⟩
  | cons x xs ih =>
    rw [untilError]
    cases hx : f x with
    | error e => exact ⟨[], x :: xs, rfl, .nil, .inr ⟨x, xs, e, rfl, hx, rfl⟩⟩
    | ok y =>
      obtain ⟨good, rest, rfl, results, stop⟩ := ih
      exact ⟨x :: good, rest, rfl, .cons hx results, stop⟩

theorem untilError_append (h : (untilError f xs).2 = .ok ()) (ys : List α) :
    untilError f (xs ++ ys) =
      ((untilError f xs).1 ++ (untilError f ys).1, (untilError f ys).2) := by
  induction xs with
  | nil => rfl
  | cons x xs ih =>
    rw [untilError] at h
    rw [List.cons_append, untilError, untilError]
    cases hx : f x with
    | error e =>
      rw [hx] at h
      cases h
    | ok y =>
      rw [hx] at h
      rw [ih h]
      rfl

end

/-! ## One record -/

namespace Model

variable {m m' : Model}

theorem checkRecord_congr (h : m'.artifact = m.artifact) (v : Json) :
    m'.checkRecord v = m.checkRecord v := by
  obtain ⟨artifact, cache⟩ := m
  obtain ⟨artifact', cache'⟩ := m'
  obtain rfl : artifact' = artifact := h
  rfl

/-- **One record** has the verdict that a new model gives, and the model goes on. -/
theorem judge_eq (hm : m.Faithful) (h : m.Steps m') (record : Except CommandError Json) :
    (m'.judge record).1 = (m.judge record).1 ∧ m.Steps (m'.judge record).2 := by
  cases record with
  | error e => exact ⟨rfl, h⟩
  | ok v =>
    obtain ⟨artifact, faithful⟩ := h.keeps
    have same : (m'.validateProps v).1 = (m.validateProps v).1 := by
      rw [validateProps_fst (faithful hm), validateProps_fst hm, checkRecord_congr artifact]
    exact ⟨congrArg (fun o => (Verdict.ofCheck o).mapError _) same,
      h.trans (steps_validateProps m' v)⟩

/-- **All records** have the verdicts that a new model gives each of them. -/
theorem judgeAll_eq (hm : m.Faithful) (h : m.Steps m') (records : List (Except CommandError Json)) :
    m'.judgeAll records = untilError (fun record => (m.judge record).1) records := by
  induction records generalizing m' with
  | nil => rfl
  | cons record records ih =>
    obtain ⟨verdict, after⟩ := judge_eq hm h record
    rw [judgeAll, untilError, ← verdict]
    generalize m'.judge record = answer at after
    obtain ⟨outcome, m''⟩ := answer
    cases outcome with
    | error e => rfl
    | ok verdict =>
      dsimp only
      rw [ih after]

end Model

/-! ## The stream -/

/-- The lines of a text that hold a record. -/
def recordLines (text : String) : List (List Char) :=
  (Text.charLines text.toList).filter (!Text.allBlank ·)

theorem recordLines_append {a : String} (h : a.toList.getLast? = some '\n') (b : String) :
    recordLines (a ++ b) = recordLines a ++ recordLines b := by
  rw [recordLines, String.toList_append, Text.charLines, Text.lines_append_of_getLast? h,
    List.filter_append]
  rfl

theorem readRecords_eq (text : String) :
    readRecords text.toList = (recordLines text).map fun line => readRecord (some line) := by
  rw [readRecords, recordsOfLines, List.filter_map, List.map_map]
  rfl

namespace Verdict

/-- Whether the status of a verdict is other than `ok`. -/
def failed (v : Verdict) : Bool := decide (v.encode.get? "status" ≠ some (.str "ok"))

theorem failed_eq (v : Verdict) : v.failed = !v.isOk := by
  cases v with
  | ok => decide
  | invalid r =>
    have status : (invalid r).encode.get? "status" = some (.str "invalid") := rfl
    rw [failed, status]
    rfl

/-- Only an error of the schema that aborts a compilation is no verdict. -/
theorem ofCheck_eq_error {outcome : Except CheckError Unit} {e : SchemaError} :
    ofCheck outcome = .error e ↔ outcome = .error (.schema e) ∧ e.isFatal = true := by
  fun_cases ofCheck outcome with
  | case1 => simp
  | case2 r => simp
  | case3 e' fatal => simpa using fun same : e' = e => same ▸ fatal
  | case4 e' fatal => simpa using fun same : e' = e => same ▸ Bool.not_eq_true _ ▸ fatal

/-- What is written for some verdicts. -/
def output (vs : List Verdict) : List Char := vs.flatMap fun v => writeLine v.encode

/-- Each verdict is written as one line. -/
theorem charLines_output (vs : List Verdict) :
    Text.charLines (output vs) = vs.map fun v => v.encode.chars :=
  Text.lines_flatMap fun v _ => ⟨feed_not_mem_chars v.encode, return_not_mem_chars v.encode⟩

end Verdict

theorem Tally.ofVerdicts_eq (vs : List Verdict) :
    ofVerdicts vs = ⟨vs.countP Verdict.failed, vs.length⟩ := by
  rw [ofVerdicts, funext Verdict.failed_eq]

theorem Tally.ofVerdicts_append (vs ws : List Verdict) :
    ofVerdicts (vs ++ ws) = ⟨(ofVerdicts vs).failed + (ofVerdicts ws).failed,
      (ofVerdicts vs).total + (ofVerdicts ws).total⟩ := by
  simp only [ofVerdicts, List.countP_append, List.length_append]

namespace Model

/-- What is said about a line by itself. -/
def judgeLine (m : Model) (line : List Char) : Except CommandError Verdict :=
  (m.judge (readRecord (some line))).1

/-- What is written while a text is validated, and the outcome. -/
def validateText (m : Model) (text : String) : List Char × Except CommandError Tally :=
  let (verdicts, outcome) := m.validateRecords (readRecordBytes text.toUTF8.toList)
  (Verdict.output verdicts, outcome)

variable {m m' : Model}

/-- A line has no verdict if it is not Json, or if its check aborts. -/
theorem judgeLine_eq_error {line : List Char} {error : CommandError} :
    m.judgeLine line = .error error ↔
      (∃ f, Json.parseChars line = .error f ∧ error = .malformedRecord f) ∨
      ∃ v e, Json.parseChars line = .ok v ∧ (m.validateProps v).1 = .error (.schema e) ∧
        e.isFatal = true ∧ error = .schema e := by
  rw [judgeLine, readRecord]
  cases Json.parseChars line with
  | error f =>
    have reply : (m.judge ((Except.error f).mapError .malformedRecord)).1 =
        .error (.malformedRecord f) := rfl
    rw [reply, Except.error.injEq]
    constructor
    · rintro rfl
      exact .inl ⟨f, rfl, rfl⟩
    · rintro (⟨f', same, rfl⟩ | ⟨v, e, impossible, -⟩)
      · rw [Except.error.inj same]
      · cases impossible
  | ok v =>
    have reply : (m.judge ((Except.ok v).mapError .malformedRecord)).1 =
        (Verdict.ofCheck (m.validateProps v).1).mapError .schema := rfl
    rw [reply, mapError_eq_error]
    constructor
    · rintro ⟨e, he, rfl⟩
      obtain ⟨outcome, fatal⟩ := Verdict.ofCheck_eq_error.1 he
      exact .inr ⟨v, e, rfl, outcome, fatal, rfl⟩
    · rintro (⟨f, impossible, -⟩ | ⟨v', e, same, outcome, fatal, rfl⟩)
      · cases impossible
      · obtain rfl : v = v' := Except.ok.inj same
        exact ⟨e, Verdict.ofCheck_eq_error.2 ⟨outcome, fatal⟩, rfl⟩

theorem validateText_eq (hm : m.Faithful) (h : m.Steps m') (text : String) :
    m'.validateText text =
      (Verdict.output (untilError m.judgeLine (recordLines text)).1,
        (untilError m.judgeLine (recordLines text)).2.map fun _ =>
          .ofVerdicts (untilError m.judgeLine (recordLines text)).1) := by
  rw [validateText, validateRecords, readRecordBytes_toUTF8, readRecords_eq, judgeAll_eq hm h,
    untilError_map]
  rfl

end Model

/-- **Validation of a stream.** What a model says about a text does not depend on what it was asked
before. It writes one line for each verdict, and there is one verdict for each line that holds a
record, up to the first line that has none: that is what a new model says about the line by itself.
If every line has a verdict, the outcome counts them and the failures among them; else it is the
error of the line without one, which is not Json or meets an error of the schema that aborts.
A text that ends with a line feed may be validated before the text behind it. -/
theorem records_are_judged_by_line {c : Compiler} {e : Entity} {m : Model}
    (h : c.define e = .ok m) :
    (∀ m' : Model, m.Reaches m' → ∀ text, m'.validateText text = m.validateText text) ∧
    (∀ text, ∃ (good rest : List (List Char)) (verdicts : List Verdict),
      recordLines text = good ++ rest ∧
      List.Forall₂ (fun line verdict => m.judgeLine line = .ok verdict) good verdicts ∧
      (m.validateText text).1 = Verdict.output verdicts ∧
      Text.charLines (m.validateText text).1 = verdicts.map (fun v => v.encode.chars) ∧
      ((rest = [] ∧ (m.validateText text).2 =
          .ok ⟨verdicts.countP Verdict.failed, (recordLines text).length⟩) ∨
        ∃ bad more error, rest = bad :: more ∧ m.judgeLine bad = .error error ∧
          (m.validateText text).2 = .error error)) ∧
    (∀ line error, m.judgeLine line = .error error ↔
      (∃ f, Json.parseChars line = .error f ∧ error = .malformedRecord f) ∨
      ∃ v e, Json.parseChars line = .ok v ∧ (m.validateProps v).1 = .error (.schema e) ∧
        e.isFatal = true ∧ error = .schema e) ∧
    ∀ (a b : String) (t : Tally), a.toList.getLast? = some '\n' → (m.validateText a).2 = .ok t →
      m.validateText (a ++ b) =
        ((m.validateText a).1 ++ (m.validateText b).1,
          (m.validateText b).2.map fun u => ⟨t.failed + u.failed, t.total + u.total⟩) := by
  have faithful := Compiler.faithful_of_define h
  have fresh := Model.validateText_eq faithful .refl
  refine ⟨fun m' later text => ?_, fun text => ?_, fun _ _ => Model.judgeLine_eq_error,
    fun a b t feed done => ?_⟩
  · rw [Model.validateText_eq faithful later.steps, fresh]
  · obtain ⟨good, rest, lines, verdicts, stop⟩ := untilError_cases m.judgeLine (recordLines text)
    refine ⟨good, rest, _, lines, verdicts, congrArg Prod.fst (fresh text), ?_, ?_⟩
    · rw [fresh]
      exact Verdict.charLines_output _
    · rw [fresh]
      obtain ⟨rfl, all⟩ | ⟨bad, more, error, rfl, fails, stopped⟩ := stop
      · refine .inl ⟨rfl, ?_⟩
        dsimp only
        have total := verdicts.length_eq
        rw [← List.append_nil good, ← lines] at total
        rw [all, total, ← Tally.ofVerdicts_eq]
        rfl
      · refine .inr ⟨bad, more, error, rfl, fails, ?_⟩
        dsimp only
        rw [stopped]
        rfl
  · rw [fresh] at done
    obtain ⟨⟨⟩, all, rfl⟩ := map_eq_ok.1 done
    rw [fresh, fresh, fresh, recordLines_append feed, untilError_append all]
    refine Prod.ext (List.flatMap_append ..) ?_
    cases (untilError m.judgeLine (recordLines b)).2 with
    | error e => rfl
    | ok _ => exact congrArg Except.ok (Tally.ofVerdicts_append _ _)

/-- Four lines: a record, white space, a record whose value is too short, and one with a property
that is not known. -/
def threeRecords : String :=
  "\x7b\"p\":\"long\"\x7d\n \n\x7b\"p\":\"s\"\x7d\n\x7b\"q\":1\x7d\n"

/-- An entity with one property, a string of two characters at least. -/
def Entity.withLength : Entity :=
  .ofFragment (.ofKeywords [("type", .str "string"), ("minLength", .num (.int 2))])

theorem three_records_are_judged : ∃ m : Model, Compiler.standard.define .withLength = .ok m ∧
    (m.validateText threeRecords).2 = .ok ⟨2, 3⟩ ∧
    m.validateText (threeRecords ++ "[]") =
      ((m.validateText threeRecords).1 ++ (m.validateText "[]").1,
        (m.validateText "[]").2.map fun t => ⟨2 + t.failed, 3 + t.total⟩) := by
  have run : (Compiler.standard.define .withLength).toOption.map
      (fun m => (m.validateRecords (readRecords threeRecords.toList)).2) = some (.ok ⟨2, 3⟩) := by
    decide +kernel
  obtain ⟨m, hm, judged⟩ := Option.map_eq_some_iff.1 run
  rw [← readRecordBytes_toUTF8] at judged
  obtain ⟨-, -, -, after⟩ := records_are_judged_by_line (toOption_eq_some.1 hm)
  exact ⟨m, toOption_eq_some.1 hm, judged, after _ "[]" ⟨2, 3⟩ (by decide) judged⟩

end EntitySchema
