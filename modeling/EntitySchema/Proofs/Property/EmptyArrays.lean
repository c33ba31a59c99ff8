import EntitySchema.Proofs.Property.Acceptance
import EntitySchema.Proofs.Property.Lossless

/-!
# Injected defaults

A required array that is kept as Json gets the empty array as its default, unless it has another
one or takes null. The other keywords of its schema are not asked (`Property.injected_default`), and
some of them may have something against the empty array: `AdmitsEmpty` has one clause for each of
these, and the default passes the schema of the property just when all clauses hold
(`injected_default_admitted`).
-/

namespace EntitySchema

namespace Draft7

/-! ## The empty array -/

/-- What the keywords of a schema object ask of the empty array, where `admits` says which of the
schemas in it let the empty array pass. -/
structure AdmitsEmpty (admits : Json → Bool) (ms : Members) : Prop where
  type : ∀ w, ("type", w) ∈ ms → "array" ∈ typesOf w
  enum : ∀ w, ("enum", w) ∈ ms → .arr [] ∈ w.arr?.getD []
  const : ∀ w, ("const", w) ∈ ms → w = .arr []
  minItems : ∀ l n, ("minItems", .num l) ∈ ms → l.toLimit? = some n → n = 0
  contains : ∀ w, ("contains", w) ∉ ms
  additionalItems : ∀ w, ("additionalItems", w) ∈ ms →
    Members.get? ms "items" ≠ some (.bool false)
  allOf : ∀ w, ("allOf", w) ∈ ms → ∀ b ∈ w.arr?.getD [], admits b = true
  anyOf : ∀ w, ("anyOf", w) ∈ ms → ∃ b ∈ w.arr?.getD [], admits b = true
  oneOf : ∀ w, ("oneOf", w) ∈ ms → (w.arr?.getD []).countP admits = 1
  not : ∀ w, ("not", w) ∈ ms → admits w = false
  conditional : ∀ w, ("if", w) ∈ ms →
    ∀ s, Members.get? ms (branchKey (admits w)) = some s → admits s = true

/-- The keywords that may have something against the empty array. -/
def emptyDeciders : List String :=
  ["type", "enum", "const", "minItems", "contains", "additionalItems", "allOf", "anyOf", "oneOf",
    "not", "if"]

variable {f : Guide Verdict} {ms : Members} {w : Json} {p : Pointer} {k : String}

theorem itemsCheck_empty {part : Part Verdict} : itemsCheck part p (.arr []) = [] :=
  ite_self []

theorem uniqueCheck_empty : uniqueCheck w p (.arr []) = [] := by
  rcases w with _ | (_ | _) | _ | _ | _ | _ <;> rfl

/-- The empty array has enough items where none are asked for. -/
theorem minItems_eq_nil {l : Number} :
    sizeCheck "minItems" "array" (fun n l => l ≤ n) .tooFewItems (.num l) p (.arr []) = [] ↔
      ∀ n, l.toLimit? = some n → n = 0 := by
  simp only [sizeCheck, sizeAs, if_true, List.length_nil]
  cases l.toLimit? with
  | none => simp
  | some n => simp [report_eq_nil]

theorem maxItems_empty {name : String} {complaint : Json → Nat → Complaint} :
    sizeCheck name "array" (fun n l => n ≤ l) complaint w p (.arr []) = [] := by
  cases w with
  | num l =>
    simp only [sizeCheck, sizeAs, if_true, List.length_nil]
    cases l.toLimit? with
    | none => rfl
    | some n => simp [report]
  | _ => rfl

theorem silent_ite {c : Prop} [Decidable c] {s t : Check} (hs : c → s p (.arr []) = [])
    (ht : ¬c → t p (.arr []) = []) : (if c then s else t) p (.arr []) = [] := by
  split
  · exact hs ‹_›
  · exact ht ‹_›

/-- All other keywords have nothing against the empty array. -/
theorem keyword_empty_eq_nil {ps : Parts Verdict} {part : Part Verdict} (hk : k ∉ emptyDeciders) :
    keyword ps k part p (.arr []) = [] := by
  have decided (hin : k ∈ emptyDeciders) {s : Check} : s p (.arr []) = [] := absurd hin hk
  unfold keyword
  iterate 3 refine silent_ite (fun h => decided (h ▸ by decide)) fun _ => ?_
  -- What is said about numbers and strings.
  iterate 11 refine silent_ite (fun _ => rfl) fun _ => ?_
  refine silent_ite (fun _ => itemsCheck_empty) fun _ => ?_
  iterate 2 refine silent_ite (fun h => decided (h ▸ by decide)) fun _ => ?_
  refine silent_ite (fun _ => maxItems_empty) fun _ => ?_
  refine silent_ite (fun _ => uniqueCheck_empty) fun _ => ?_
  refine silent_ite (fun h => decided (h ▸ by decide)) fun _ => ?_
  -- What is said about objects.
  iterate 8 refine silent_ite (fun _ => rfl) fun _ => ?_
  iterate 5 refine silent_ite (fun h => decided (h ▸ by decide)) fun _ => ?_
  rfl

/-! ## One keyword at a time -/

theorem equal_empty {v : Json} : Json.equal (.arr []) v = true ↔ v = .arr [] := by
  rcases v with _ | _ | _ | _ | (_ | _) | _ <;> simp [Json.equal, Json.equalItems]

theorem equalConst_empty {v : Json} : Json.equalConst v (.arr []) = true ↔ v = .arr [] := by
  rcases v with _ | _ | _ | _ | (_ | _) | _ <;> simp [Json.equalConst, Json.equal, Json.equalItems]

theorem type_empty : memberCheck f ms ("type", w) p (.arr []) = [] ↔ "array" ∈ typesOf w := by
  rw [memberCheck_type, typeCheck_eq_nil]
  simp [hasType]

theorem enum_empty : memberCheck f ms ("enum", w) p (.arr []) = [] ↔
    .arr [] ∈ w.arr?.getD [] := by
  show report _ ((w.arr?.getD []).any (Json.equal (.arr []))) _ = [] ↔ _
  rw [report_eq_nil, List.any_eq_true]
  simp [equal_empty]

theorem contains_empty : memberCheck f ms ("contains", w) p (.arr []) ≠ [] := nofun

/-- Where `items` is `false`, `additionalItems` lets nothing pass; else it looks after items. -/
theorem additionalItems_empty : memberCheck f ms ("additionalItems", w) p (.arr []) = [] ↔
    Members.get? ms "items" ≠ some (.bool false) := by
  show additionalItemsCheck (Parts.of checkNode f ms) (Part.of checkNode f w) p (.arr []) =
    [] ↔ _
  unfold additionalItemsCheck
  rw [Parts.value_get?_of]
  cases hitems : Members.get? ms "items" with
  | none => simp
  | some items =>
    rcases items with _ | (_ | _) | _ | _ | listed | _
    case arr => rcases w with _ | (_ | _) | _ | _ | _ | _ <;> simp [report]
    all_goals simp

/-! ## Whole schemas -/

variable {d : Scope}

/-- A schema object without a reference lets the empty array pass just when each of its keywords
does. -/
theorem admits_empty_iff (h : Reference.held? (.obj ms) = none) :
    d.admits (.obj ms) (.arr []) = true ↔ AdmitsEmpty ((d.enter (.obj ms)).admits · (.arr [])) ms := by
  have own : d.admits (.obj ms) (.arr []) = true ↔
      ∀ m ∈ ms, memberCheck ((d.enter (.obj ms)).guide (.arr [])) ms m [] (.arr []) = [] :=
    (d.admits_iff []).trans (check_obj_eq_nil h)
  rw [own]
  constructor
  · intro H
    exact {
      type := fun w hw => type_empty.1 (H _ hw)
      enum := fun w hw => enum_empty.1 (H _ hw)
      const := fun w hw => equalConst_empty.1 (memberCheck_const_eq_nil.1 (H _ hw))
      minItems := fun l n hw => minItems_eq_nil.1 (H _ hw) n
      contains := fun w hw => contains_empty (H _ hw)
      additionalItems := fun w hw => additionalItems_empty.1 (H _ hw)
      allOf := fun w hw => Scope.allOf_iff.1 (H _ hw)
      anyOf := fun w hw => Scope.anyOf_iff.1 (H _ hw)
      oneOf := fun w hw => Scope.oneOf_iff.1 (H _ hw)
      not := fun w hw => Scope.not_iff.1 (H _ hw)
      conditional := fun w hw => Scope.if_iff.1 (H _ hw) }
  · rintro H ⟨k, w⟩ hm
    by_cases hk : k ∈ emptyDeciders
    · simp only [emptyDeciders, List.mem_cons, List.not_mem_nil, or_false] at hk
      rcases hk with rfl | rfl | rfl | rfl | rfl | rfl | rfl | rfl | rfl | rfl | rfl
      · exact type_empty.2 (H.type w hm)
      · exact enum_empty.2 (H.enum w hm)
      · exact memberCheck_const_eq_nil.2 (equalConst_empty.2 (H.const w hm))
      · cases w with
        | num l => exact minItems_eq_nil.2 fun n => H.minItems l n hm
        | _ => rfl
      · exact absurd hm (H.contains w)
      · exact additionalItems_empty.2 (H.additionalItems w hm)
      · exact Scope.allOf_iff.2 (H.allOf w hm)
      · exact Scope.anyOf_iff.2 (H.anyOf w hm)
      · exact Scope.oneOf_iff.2 (H.oneOf w hm)
      · exact Scope.not_iff.2 (H.not w hm)
      · exact Scope.if_iff.2 (H.conditional w hm)
    · exact keyword_empty_eq_nil hk

/-- Keywords that ask for an array and nothing else leave the empty array alone. -/
theorem admitsEmpty_of_plain {admits : Json → Bool}
    (h : ∀ m ∈ ms, m.1 ∈ emptyDeciders → m = ("type", .str "array")) : AdmitsEmpty admits ms := by
  have absent {k : String} {w : Json} (hm : (k, w) ∈ ms) (hk : k ∈ emptyDeciders)
      (hne : k ≠ "type") : False := hne (Prod.mk.inj (h _ hm hk)).1
  exact {
    type := fun w hw => by
      obtain rfl : w = .str "array" := (Prod.mk.inj (h _ hw List.mem_cons_self)).2
      exact List.mem_singleton_self _
    enum := fun w hw => (absent hw (by decide) (by decide)).elim
    const := fun w hw => (absent hw (by decide) (by decide)).elim
    minItems := fun l n hw => (absent hw (by decide) (by decide)).elim
    contains := fun w hw => absent hw (by decide) (by decide)
    additionalItems := fun w hw => (absent hw (by decide) (by decide)).elim
    allOf := fun w hw => (absent hw (by decide) (by decide)).elim
    anyOf := fun w hw => (absent hw (by decide) (by decide)).elim
    oneOf := fun w hw => (absent hw (by decide) (by decide)).elim
    not := fun w hw => (absent hw (by decide) (by decide)).elim
    conditional := fun w hw => (absent hw (by decide) (by decide)).elim }

/-- What passes a reference in the scope. -/
def Scope.admitsAt (d : Scope) (r : String) (v : Json) : Bool :=
  ((d.guide v).lead r [] v).isEmpty

/-- What decides whether a schema object lets the empty array pass: the reference that it holds, or
its keywords. -/
inductive LetsEmptyPass (d : Scope) (ms : Members) : Prop
  | reference {r : String} : Reference.held? (.obj ms) = some r →
      (d.enter (.obj ms)).admitsAt r (.arr []) = true → LetsEmptyPass d ms
  | keywords : Reference.held? (.obj ms) = none →
      AdmitsEmpty ((d.enter (.obj ms)).admits · (.arr [])) ms → LetsEmptyPass d ms

theorem admits_iff_letsEmptyPass :
    d.admits (.obj ms) (.arr []) = true ↔ LetsEmptyPass d ms := by
  cases h : Reference.held? (.obj ms) with
  | none =>
    rw [admits_empty_iff h]
    refine ⟨.keywords h, ?_⟩
    rintro (⟨hr, -⟩ | ⟨-, hk⟩)
    · cases h.symm.trans hr
    · exact hk
  | some r =>
    have followed : d.admits (.obj ms) (.arr []) =
        (d.enter (.obj ms)).admitsAt r (.arr []) := by
      show (check ((d.enter (.obj ms)).guide (.arr [])) (.obj ms) [] (.arr [])).isEmpty = _
      rw [check_obj_of_held h]
      rfl
    rw [followed]
    refine ⟨.reference h, ?_⟩
    rintro (⟨hr, hd⟩ | ⟨hn, -⟩)
    · cases h.symm.trans hr
      exact hd
    · cases h.symm.trans hn

end Draft7

/-! ## Columns -/

section
variable {c : Compiler} {e : Entity} {a : Artifact} {name : String} {f : Fragment}

/-- A default that the fragment does not give is the empty array, for a column without null. -/
theorem Property.injected_default {catalog : Catalog} {json : StorageType} {required : Bool}
    {x : Property} {dv : ColumnDefault} (h : split catalog json f required = .ok x)
    (hgiven : f.get? "defaultValue" = none) (hdv : x.column.default = some dv) :
    dv = .value (.arr []) ∧ x.schema = .obj f.validation := by
  obtain ⟨-, r, d, -, hd, hschema, hcolumn⟩ := split_cases h
  obtain rfl : d = some dv := by
    rw [hcolumn] at hdv
    exact hdv
  rw [hgiven] at hd
  obtain ⟨rfl, required, -⟩ := defaultOf_none hd
  refine ⟨rfl, ?_⟩
  -- A permission for null would have kept the default away.
  have unpermitted : f.permission ≠ some true := by
    intro permitted
    rw [hcolumn] at required
    simp [permitted] at required
  rw [hschema, if_neg (by simp [unpermitted])]

/-- **Injected defaults.** A default that a fragment does not give is the empty array. It passes the
schema of the property just when what decides there lets the empty array pass, so it does where no
keyword asks for more than an array. -/
theorem injected_default_admitted (h : c.compile e = .ok a)
    (hf : Members.get? e.properties name = some f) (hgiven : f.get? "defaultValue" = none) :
    ∃ column s, Members.get? a.columns name = some column ∧ a.schemaAt name = some s ∧
      ∀ dv, column.default = some dv → dv = .value (.arr []) ∧ ∀ d : Draft7.Scope,
        (d.admits s (.arr []) = true ↔ Draft7.LetsEmptyPass d f.validation) ∧
        (f.get? "$ref" = none →
          (∀ m ∈ f.validation, m.1 ∈ Draft7.emptyDeciders → m = ("type", .str "array")) →
          d.admits s (.arr []) = true) := by
  obtain ⟨x, hsplit, hcolumn, hs⟩ := Compiler.property_of_compile h hf
  refine ⟨x.column, x.schema, hcolumn, hs, fun dv hdv => ?_⟩
  obtain ⟨hvalue, hschema⟩ := Property.injected_default hsplit hgiven hdv
  rw [hschema]
  refine ⟨hvalue, fun d => ⟨Draft7.admits_iff_letsEmptyPass, fun href plain => ?_⟩⟩
  have unheld : Draft7.Reference.held? (.obj f.validation) = none :=
    Draft7.held?_eq_none ((f.get?_validation (by decide)).trans href)
  exact Draft7.admits_iff_letsEmptyPass.2 (.keywords unheld (Draft7.admitsEmpty_of_plain plain))

end

/-- An array of strings. -/
def Fragment.listOfStrings : Fragment :=
  .ofKeywords [("type", .str "array"), ("items", .obj [("type", .str "string")])]

theorem list_of_strings_starts_empty : ∃ a column s d,
    Compiler.standard.compile (.ofFragment .listOfStrings) = .ok a ∧
    Members.get? a.columns "p" = some column ∧ column.default = some (.value (.arr [])) ∧
    a.schemaAt "p" = some s ∧ Draft7.Compiled.compile s = .ok d ∧ d.accepts (.arr []) = true := by
  obtain ⟨a, s, d, ha, hs, hd, -⟩ := exists_of_schemaRun (c := .standard)
    (e := .ofFragment .listOfStrings) (k := "p") (g := fun _ => ()) (r := ()) (by decide +kernel)
  have hf : Members.get? (Entity.ofFragment .listOfStrings).properties "p" =
    some .listOfStrings := rfl
  obtain ⟨column, hcolumn, hdefault⟩ := exists_of_splitRun (g := (·.default))
    (r := some (.value (.arr []))) ha hf rfl
  obtain ⟨column', s', hcolumn', hs', h⟩ := injected_default_admitted ha hf rfl
  obtain rfl : column' = column := Option.some.inj (hcolumn'.symm.trans hcolumn)
  obtain rfl : s' = s := Option.some.inj (hs'.symm.trans hs)
  refine ⟨a, column', s', d, ha, hcolumn, hdefault, hs, hd, ?_⟩
  rw [d.accepts_eq, Draft7.Compiled.root_of_compile hd]
  exact ((h _ hdefault).2 d.scope).2 rfl (by decide)

/-- An array with an item. -/
def Fragment.someItems : Fragment :=
  .ofKeywords [("type", .str "array"), ("minItems", .num (.int 1))]

/-- An array that must have an item gets a default without one. -/
theorem injected_default_too_short : ∃ a column s d,
    Compiler.standard.compile (.ofFragment .someItems) = .ok a ∧
    Members.get? a.columns "p" = some column ∧ Fragment.someItems.get? "defaultValue" = none ∧
    column.default = some (.value (.arr [])) ∧
    a.schemaAt "p" = some s ∧ Draft7.Compiled.compile s = .ok d ∧ d.accepts (.arr []) = false := by
  obtain ⟨a, s, d, ha, hs, hd, hrefuses⟩ := exists_of_schemaRun (c := .standard)
    (e := .ofFragment .someItems) (k := "p") (g := (·.accepts (.arr []))) (r := false)
    (by decide +kernel)
  have hf : Members.get? (Entity.ofFragment .someItems).properties "p" = some .someItems := rfl
  obtain ⟨column, hcolumn, hdefault⟩ := exists_of_splitRun (g := (·.default))
    (r := some (.value (.arr []))) ha hf rfl
  exact ⟨a, column, s, d, ha, hcolumn, rfl, hdefault, hs, hd, hrefuses⟩

end EntitySchema
