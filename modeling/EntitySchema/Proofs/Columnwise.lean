import EntitySchema.Proofs.Narrowing
import EntitySchema.Proofs.Selections

/-!
# Records and columns

A record is checked by one validator, compiled for the properties it has. Its fields can be checked
one by one instead, each as a column with a validator of its own. Where the schemas of the
properties have no references, this comes to the same (`record_is_checked_columnwise`): the record
passes when all columns do, and the report on it has the entries of the columns, each below its
field.

Whether there is a report is a question of its own, since a schema may not compile outside of the
document it was written in. A document without a reference for the whole has compiled the schemas of
its properties already; one with such a reference has not looked at them, and then a column that
does not compile hides what the other columns have to say (`masked_record_has_no_entries`).
-/

namespace EntitySchema

open Draft7 (Compiled NoReferences Portable told)

/-! ## Entries -/

/-- The entries of a report; none if there is none. -/
def reported : Except CheckError Unit → List Entry
  | .error (.invalid report) => report.entries
  | _ => []

/-- Where in the value an entry is about, and what it says. -/
def Entry.said (e : Entry) : String × String := (e.instancePath, e.message)

/-- What an entry says, as seen from an object that has the value under a key. -/
def Entry.saidBelow (k : String) (e : Entry) : String × String :=
  ("/" ++ String.ofList (Pointer.escape k.toList) ++ e.instancePath, e.message)

theorem Pointer.text_cons (k : String) (p : Pointer) :
    text (.key k :: p) = "/" ++ String.ofList (escape k.toList) ++ text p := by
  rw [text, chars, List.flatMap_cons, String.ofList_append, String.ofList_cons]
  rfl

theorem said_ofFailure (fs : List Draft7.Failure) : (fs.map Entry.ofFailure).map Entry.said =
    (told fs).map fun t => (Pointer.text t.1, t.2.message) := by
  rw [told, List.map_map, List.map_map]
  rfl

theorem saidBelow_ofFailure (k : String) (fs : List Draft7.Failure) :
    (fs.map Entry.ofFailure).map (Entry.saidBelow k) =
      (told fs).map fun t => (Pointer.text (.key k :: t.1), t.2.message) := by
  simp only [Pointer.text_cons]
  rw [told, List.map_map, List.map_map]
  rfl

/-! ## Outcomes of a check -/

/-- **The outcome of a check** by a schema: the schema does not compile, or the value passes, or the
report has an entry for each failure. -/
inductive Checks (schema v : Json) : Except CheckError Unit → Prop where
  | refused {error : SchemaError} : (¬ ∃ d, Compiled.compile schema = .ok d) →
    Checks schema v (.error (.schema error))
  | passed {d : Compiled} : Compiled.compile schema = .ok d → d.failures v = [] →
    Checks schema v (.ok ())
  | failed {d : Compiled} {report : Report} : Compiled.compile schema = .ok d →
    d.failures v ≠ [] → report.entries = (d.failures v).map Entry.ofFailure →
    Checks schema v (.error (.invalid report))

theorem checks_checkAnew (schema v : Json) (label : Option String) (g : SchemaError → SchemaError) :
    Checks schema v (Model.checkAnew ((Validator.compile schema label).mapError g) v) := by
  cases hx : Validator.compile schema label with
  | error error =>
    refine .refused fun ⟨d, hd⟩ => ?_
    cases hx.symm.trans (Validator.compile_eq_ok.2 ⟨d, hd, rfl⟩)
  | ok x =>
    obtain ⟨d, hd, rfl⟩ := Validator.compile_eq_ok.1 hx
    show Checks schema v ((Validator.validate ⟨d, label⟩ v).mapError .invalid)
    rw [Validator.validate, Validator.check, Validator.entries]
    cases hfs : d.failures v with
    | nil => exact .passed hd hfs
    | cons f fs => exact .failed hd (by simp [hfs]) (by rw [hfs]; rfl)

namespace Checks

variable {schema v : Json} {outcome : Except CheckError Unit}

theorem eq_ok_iff (h : Checks schema v outcome) : outcome = .ok () ↔
    ∃ d, Compiled.compile schema = .ok d ∧ d.failures v = [] := by
  cases h with
  | refused broken => exact iff_of_false nofun fun ⟨d, hd, _⟩ => broken ⟨d, hd⟩
  | passed hd silent => exact iff_of_true rfl ⟨_, hd, silent⟩
  | failed hd fails =>
    refine iff_of_false nofun fun ⟨d, hd', silent⟩ => fails ?_
    cases hd.symm.trans hd'
    exact silent

theorem schema_iff (h : Checks schema v outcome) :
    (∃ error, outcome = .error (.schema error)) ↔ ¬ ∃ d, Compiled.compile schema = .ok d := by
  cases h with
  | refused broken => exact iff_of_true ⟨_, rfl⟩ broken
  | passed hd => exact iff_of_false nofun (not_not_intro ⟨_, hd⟩)
  | failed hd => exact iff_of_false nofun (not_not_intro ⟨_, hd⟩)

theorem reported_eq (h : Checks schema v outcome) {d : Compiled}
    (hd : Compiled.compile schema = .ok d) :
    reported outcome = (d.failures v).map Entry.ofFailure := by
  cases h with
  | refused broken => exact absurd ⟨d, hd⟩ broken
  | passed hd' silent =>
    cases hd'.symm.trans hd
    rw [silent]
    rfl
  | failed hd' _ entries =>
    cases hd'.symm.trans hd
    exact entries

end Checks

/-! ## Fields -/

namespace Model

variable {m : Model} {r : Members} {k : String} {s v : Json}

/-- The schema of a property of a model. -/
def look (m : Model) (k : String) : Json := (Document.property? m.artifact.schema k).getD .null

theorem look_of_schemaAt (h : m.artifact.schemaAt k = some s) : m.look k = s := by
  rw [look, schemaOf_eq_ok.1 (schemaOf_of_schemaAt h)]
  rfl

/-- The schemas that a record is checked by, with their names. -/
def recordSchemas (m : Model) (r : Members) : Members :=
  Document.selected m.artifact.schema (ValidatorKey.sorted (Members.keys r))

/-- The schema that a record is checked by. -/
def recordSchema (m : Model) (r : Members) : Json := Draft7.closedWith (m.recordSchemas r)

theorem keys_recordSchemas (m : Model) (r : Members) :
    Members.keys (m.recordSchemas r) = ValidatorKey.sorted (Members.keys r) :=
  Document.keys_selected ..

theorem nodup_recordSchemas (m : Model) (r : Members) : (Members.keys (m.recordSchemas r)).Nodup :=
  keys_recordSchemas m r ▸ ValidatorKey.nodup_sorted _

theorem mem_recordSchemas : (k, s) ∈ m.recordSchemas r ↔ k ∈ Members.keys r ∧ s = m.look k := by
  simp only [recordSchemas, Document.selected, List.mem_map, ValidatorKey.mem_sorted,
    Prod.mk.injEq, look]
  constructor
  · rintro ⟨_, hk, rfl, rfl⟩
    exact ⟨hk, rfl⟩
  · rintro ⟨hk, rfl⟩
    exact ⟨k, hk, rfl, rfl⟩

/-- The schemas of a record are those of its fields. -/
theorem forall_recordSchemas {P : Json → Prop} :
    (∀ x ∈ m.recordSchemas r, P x.2) ↔ ∀ n ∈ r, P (m.look n.1) := by
  constructor
  · intro h n hn
    exact h (n.1, m.look n.1) (mem_recordSchemas.2 ⟨Members.mem_keys_of_mem hn, rfl⟩)
  · rintro h ⟨k, s⟩ hx
    obtain ⟨hk, rfl⟩ := mem_recordSchemas.1 hx
    obtain ⟨n, hn, rfl⟩ := List.mem_map.1 hk
    exact h n hn

/-- What the schema of a property tells of a value. -/
def tells (m : Model) (k : String) (v : Json) : List (Pointer × Draft7.Complaint) :=
  told (Draft7.check .silent (m.look k) [] v)

/-- A record whose fields are properties of a model, with schemas that have no references. -/
structure Checkable (m : Model) (r : Members) : Prop where
  faithful : m.Faithful
  nonempty : r ≠ []
  known : ∀ n ∈ r, m.schemaOf n.1 = .ok (m.look n.1)
  noReferences : ∀ n ∈ r, NoReferences (m.look n.1)

namespace Checkable

theorem checks_column (h : m.Checkable r) {n : String × Json} (hn : n ∈ r) :
    Checks (m.look n.1) n.2 (m.validateColumn n.1 n.2).1 := by
  rw [validateColumn_fst h.faithful, checkColumn, build_eq (sourceOf_column (h.known n hn))]
  exact checks_checkAnew ..

theorem checks_record (h : m.Checkable r) :
    Checks (m.recordSchema r) (.obj r) (m.validateProps (.obj r)).1 := by
  have named : Members.keys r ≠ [] := by simpa [Members.keys] using h.nonempty
  have all : Document.HasAll m.artifact.schema (Members.keys r) := by
    intro k hk
    obtain ⟨n, hn, rfl⟩ := List.mem_map.1 hk
    rw [schemaOf_eq_ok.1 (h.known n hn)]
    rfl
  rw [validateProps_fst h.faithful]
  show Checks _ _ (checkAnew (m.buildProps (Members.keys r)) (.obj r))
  rw [buildProps_eq named all]
  exact checks_checkAnew ..

/-- The schema of a record compiles just when those of its fields do. -/
theorem compile_isOk_iff (h : m.Checkable r) :
    (∃ d, Compiled.compile (m.recordSchema r) = .ok d) ↔
      ∀ n ∈ r, ∃ d, Compiled.compile (m.look n.1) = .ok d :=
  (Draft7.compile_closed_isOk_iff (nodup_recordSchemas m r)
    (forall_recordSchemas.2 h.noReferences)).trans
    (forall_recordSchemas (P := fun s => ∃ d, Compiled.compile s = .ok d))

theorem told_column (h : m.Checkable r) {n : String × Json} (hn : n ∈ r) {d : Compiled}
    (hd : Compiled.compile (m.look n.1) = .ok d) : told (d.failures n.2) = m.tells n.1 n.2 :=
  Draft7.told_failures_of_noReferences hd (h.noReferences n hn) ..

theorem told_record (h : m.Checkable r) {d : Compiled}
    (hd : Compiled.compile (m.recordSchema r) = .ok d) : told (d.failures (.obj r)) =
      r.flatMap fun n => (m.tells n.1 n.2).map fun t => (.key n.1 :: t.1, t.2) := by
  refine Draft7.told_closed (g := m.look) hd (forall_recordSchemas.2 h.noReferences)
    (fun n hn => ?_) (fun name hname => ?_) ..
  · exact Members.get?_of_mem (nodup_recordSchemas m r)
      (mem_recordSchemas.2 ⟨Members.mem_keys_of_mem hn, rfl⟩)
  · exact ValidatorKey.mem_sorted.1 (keys_recordSchemas m r ▸ hname)

theorem record_eq_ok_iff (h : m.Checkable r) : (m.validateProps (.obj r)).1 = .ok () ↔
    ∀ n ∈ r, (m.validateColumn n.1 n.2).1 = .ok () := by
  have silent {d : Compiled} (hd : Compiled.compile (m.recordSchema r) = .ok d) :
      d.failures (.obj r) = [] ↔ ∀ n ∈ r, m.tells n.1 n.2 = [] := by
    rw [← Draft7.told_eq_nil, h.told_record hd, List.flatMap_eq_nil_iff]
    simp only [List.map_eq_nil_iff]
  rw [h.checks_record.eq_ok_iff]
  constructor
  · rintro ⟨d, hd, passes⟩ n hn
    obtain ⟨alone, halone⟩ := h.compile_isOk_iff.1 ⟨d, hd⟩ n hn
    refine (h.checks_column hn).eq_ok_iff.2 ⟨alone, halone, ?_⟩
    rw [← Draft7.told_eq_nil, h.told_column hn halone]
    exact (silent hd).1 passes n hn
  · intro passes
    have columns : ∀ n ∈ r, ∃ d, Compiled.compile (m.look n.1) = .ok d ∧ d.failures n.2 = [] :=
      fun n hn => (h.checks_column hn).eq_ok_iff.1 (passes n hn)
    obtain ⟨d, hd⟩ := h.compile_isOk_iff.2 fun n hn => (columns n hn).imp fun _ => And.left
    refine ⟨d, hd, (silent hd).2 fun n hn => ?_⟩
    obtain ⟨alone, halone, own⟩ := columns n hn
    rw [← h.told_column hn halone, own]
    rfl

theorem entries_eq (h : m.Checkable r) {report : Report}
    (failed : (m.validateProps (.obj r)).1 = .error (.invalid report)) :
    report.entries.map Entry.said = r.flatMap fun n =>
      (reported (m.validateColumn n.1 n.2).1).map (Entry.saidBelow n.1) := by
  obtain ⟨d, hd⟩ : ∃ d, Compiled.compile (m.recordSchema r) = .ok d := by
    by_contra broken
    obtain ⟨error, refused⟩ := h.checks_record.schema_iff.2 broken
    cases failed.symm.trans refused
  have entries := h.checks_record.reported_eq hd
  rw [failed] at entries
  rw [show report.entries = _ from entries, said_ofFailure, h.told_record hd, List.map_flatMap]
  refine List.flatMap_congr fun n hn => ?_
  obtain ⟨alone, halone⟩ := h.compile_isOk_iff.1 ⟨d, hd⟩ n hn
  rw [(h.checks_column hn).reported_eq halone, saidBelow_ofFailure, h.told_column hn halone,
    List.map_map]
  rfl

theorem record_schema_iff (h : m.Checkable r) :
    (∃ error, (m.validateProps (.obj r)).1 = .error (.schema error)) ↔
      ∃ n ∈ r, ∃ error, (m.validateColumn n.1 n.2).1 = .error (.schema error) := by
  rw [h.checks_record.schema_iff, h.compile_isOk_iff]
  simp only [not_forall, exists_prop]
  exact exists_congr fun n => and_congr_right fun hn => (h.checks_column hn).schema_iff.symm

end Checkable

end Model

/-! ## Records -/

theorem Compiler.checkable_of_define {c : Compiler} {e : Entity} {m m' : Model}
    (h : c.define e = .ok m) (hm : m.Reaches m') {r : Members} (hne : r ≠ [])
    (hr : ∀ n ∈ r, ∃ s, m.artifact.schemaAt n.1 = some s ∧ NoReferences s) : m'.Checkable r := by
  have schema : ∀ n ∈ r, m'.schemaOf n.1 = .ok (m'.look n.1) ∧ NoReferences (m'.look n.1) := by
    intro n hn
    obtain ⟨s, hs, references⟩ := hr n hn
    rw [← hm.keeps.1] at hs
    rw [Model.look_of_schemaAt hs]
    exact ⟨schemaOf_of_schemaAt hs, references⟩
  exact {
    faithful := hm.keeps.2 (Compiler.faithful_of_define h)
    nonempty := hne
    known := fun n hn => (schema n hn).1
    noReferences := fun n hn => (schema n hn).2 }

/-- **Records column by column.** Where the schemas of its fields have no references, a record
passes just when each field passes as a column. A report on the record says of each field what the
report on the column says, below the field and in the order of the fields. No report can be made
just when there is none for some column, and that takes a reference for the document as a whole. -/
theorem record_is_checked_columnwise {c : Compiler} {e : Entity} {m m' : Model}
    (h : c.define e = .ok m) (hm : m.Reaches m') {r : Members} (hne : r ≠ [])
    (hr : ∀ n ∈ r, ∃ s, m.artifact.schemaAt n.1 = some s ∧ NoReferences s) :
    ((m'.validateProps (.obj r)).1 = .ok () ↔
      ∀ n ∈ r, (m'.validateColumn n.1 n.2).1 = .ok ()) ∧
    (∀ report, (m'.validateProps (.obj r)).1 = .error (.invalid report) →
      report.entries.map Entry.said = r.flatMap fun n =>
        (reported (m'.validateColumn n.1 n.2).1).map (Entry.saidBelow n.1)) ∧
    ((∃ error, (m'.validateProps (.obj r)).1 = .error (.schema error)) ↔
      ∃ n ∈ r, ∃ error, (m'.validateColumn n.1 n.2).1 = .error (.schema error)) ∧
    (Members.get? e.rest "$ref" = none →
      ∀ n ∈ r, ∀ error, (m'.validateColumn n.1 n.2).1 ≠ .error (.schema error)) := by
  have checkable : m'.Checkable r := Compiler.checkable_of_define h hm hne hr
  refine ⟨checkable.record_eq_ok_iff, fun report => checkable.entries_eq,
    checkable.record_schema_iff, fun href n hn error refused => ?_⟩
  -- The document has read the schemas of its properties, so they are portable.
  obtain ⟨s, hs, references⟩ := hr n hn
  have look : m'.look n.1 = s := Model.look_of_schemaAt (by rw [hm.keeps.1, hs])
  obtain ⟨a, hcompile, rfl⟩ := Compiler.define_eq_ok.1 h
  have portable : Portable (m'.look n.1) :=
    look ▸ portable_property_of_compile hcompile href hs references
  exact (checkable.checks_column hn).schema_iff.1 ⟨error, refused⟩ portable.compiles

/-- An entity of a string and a whole number. -/
def Entity.pair : Entity :=
  ((Entity.ofTitle "T").addProperty "p" (.ofKeywords [("type", .str "string")]) true).addProperty
    "q" (.ofKeywords [("type", .str "integer")]) true

theorem pair_is_checked_columnwise : ∃ m report, Compiler.standard.define .pair = .ok m ∧
    (m.validateProps (.obj [("q", .str "a"), ("p", .num (.int 5))])).1 =
      .error (.invalid report) ∧
    report.entries.map Entry.said = [("/q", "\"a\" is not of type \"integer\""),
      ("/p", "5 is not of type \"string\"")] := by
  have run : (Compiler.standard.define .pair).toOption.map (fun m =>
      (m.artifact.schemaAt "p", m.artifact.schemaAt "q",
        (reported (m.validateColumn "q" (.str "a")).1).map (Entry.saidBelow "q"),
        (reported (m.validateColumn "p" (.num (.int 5))).1).map (Entry.saidBelow "p"))) =
      some (some (.obj [("type", .str "string")]), some (.obj [("type", .str "integer")]),
        [("/q", "\"a\" is not of type \"integer\"")], [("/p", "5 is not of type \"string\"")]) := by
    decide +kernel
  obtain ⟨m, hm, run⟩ := Option.map_eq_some_iff.1 run
  simp only [Prod.mk.injEq] at run
  obtain ⟨hp, hq, entriesQ, entriesP⟩ := run
  obtain ⟨passes, entries, refused, plain⟩ := record_is_checked_columnwise
    (r := [("q", .str "a"), ("p", .num (.int 5))]) (toOption_eq_some.1 hm)
    (show m.Reaches m from ⟨[], rfl⟩) nofun fun n hn => by
      obtain rfl | rfl : n = _ ∨ n = _ := by simpa using hn
      · exact ⟨_, hq, Draft7.noReferences_of_allHeld rfl⟩
      · exact ⟨_, hp, Draft7.noReferences_of_allHeld rfl⟩
  cases outcome : (m.validateProps (.obj [("q", .str "a"), ("p", .num (.int 5))])).1 with
  | ok u =>
    have column := passes.1 outcome _ List.mem_cons_self
    rw [column] at entriesQ
    cases entriesQ
  | error error =>
    cases error with
    | schema error =>
      obtain ⟨n, hn, error, h⟩ := refused.1 ⟨error, outcome⟩
      exact absurd h (plain rfl n hn error)
    | invalid report =>
      refine ⟨m, report, toOption_eq_some.1 hm, outcome, ?_⟩
      rw [entries report outcome]
      simp [entriesQ, entriesP]

/-- An entity whose document is a reference; the pattern for the keys of its first property cannot
be read as one. -/
def Entity.masked : Entity :=
  let one := (Entity.ofTitle "T").addProperty "p" (.ofKeywords [("type", .str "object"),
    ("patternProperties", .obj [("\\cA", .obj [])])]) true
  let two := one.addProperty "q" (.ofKeywords [("type", .str "string")]) true
  (two.setOption "definitions" (.obj [("any", .obj [])])).setOption "$ref"
    (.str "#/definitions/any")

/-- A column whose schema does not compile hides what there is to say of another one. -/
theorem masked_record_has_no_entries : ∃ m s t error, Compiler.standard.define .masked = .ok m ∧
    m.artifact.schemaAt "p" = some s ∧ NoReferences s ∧
    m.artifact.schemaAt "q" = some t ∧ NoReferences t ∧
    (m.validateProps (.obj [("p", .obj []), ("q", .num (.int 5))])).1 = .error (.schema error) ∧
    (reported (m.validateColumn "q" (.num (.int 5))).1).map (Entry.saidBelow "q") =
      [("/q", "5 is not of type \"string\"")] := by
  have run : (Compiler.standard.define .masked).toOption.map (fun m =>
      (m.artifact.schemaAt "p", m.artifact.schemaAt "q",
        (Compiled.compile (m.look "p")).toOption.isSome,
        (reported (m.validateColumn "q" (.num (.int 5))).1).map (Entry.saidBelow "q"))) =
      some (some (.obj [("type", .str "object"), ("patternProperties", .obj [("\\cA", .obj [])])]),
        some (.obj [("type", .str "string")]), false, [("/q", "5 is not of type \"string\"")]) := by
    decide +kernel
  obtain ⟨m, hm, run⟩ := Option.map_eq_some_iff.1 run
  simp only [Prod.mk.injEq] at run
  obtain ⟨hp, hq, unread, entries⟩ := run
  have checkable : m.Checkable [("p", .obj []), ("q", .num (.int 5))] :=
    Compiler.checkable_of_define (toOption_eq_some.1 hm) ⟨[], rfl⟩ nofun fun n hn => by
      obtain rfl | rfl : n = _ ∨ n = _ := by simpa using hn
      · exact ⟨_, hp, Draft7.noReferences_of_allHeld rfl⟩
      · exact ⟨_, hq, Draft7.noReferences_of_allHeld rfl⟩
  obtain ⟨error, refused⟩ := checkable.checks_record.schema_iff.2 fun compiles => by
    obtain ⟨d, hd⟩ := checkable.compile_isOk_iff.1 compiles _ List.mem_cons_self
    rw [hd] at unread
    cases unread
  exact ⟨m, _, _, error, toOption_eq_some.1 hm, hp, Draft7.noReferences_of_allHeld rfl, hq,
    Draft7.noReferences_of_allHeld rfl, refused, entries⟩

end EntitySchema
