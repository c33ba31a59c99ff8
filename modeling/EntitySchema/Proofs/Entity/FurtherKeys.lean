import EntitySchema.Proofs.Property.Halves

/-!
# Further keys of an entity

A further key of an entity goes either to the options of its model or into its document, as the
vocabulary of options says. Five keys of the document belong to the compiler. It writes four of them
after the further keys, so they win over further keys of the same name. It writes the title before
them: a further key `title` takes its place (`compiled_document_retitled`), although the entity
keeps its name.
-/

namespace EntitySchema

namespace Entity

/-- The keys of a document that the compiler writes. -/
def ownedKeys : List String := ["title", "type", "additionalProperties", "required", "properties"]

/-- The options are the further keys named so, and a description where no comment is given. -/
theorem get?_options (e : Entity) (k : String) : Members.get? e.options k =
    if Directive.isOption k then
      (Members.get? e.rest k).or (if k = "comment" then Property.spareComment e.rest else none)
    else none := by
  have options : e.options =
      Property.addComment e.rest (e.rest.filter fun m => Directive.isOption m.1) := rfl
  rw [options]
  by_cases hk : k = "comment"
  · subst hk
    have comment : Directive.isOption "comment" = true := by decide
    rw [Property.get?_addComment_comment, Members.get?_filter, comment]
    rfl
  · rw [Property.get?_addComment hk, Members.get?_filter, if_neg hk, Option.or_none]

/-- The title of a document is a further key of that name, else the title of the entity. -/
theorem get?_documentMembers_title (e : Entity) (properties : Members) :
    Members.get? (e.documentMembers properties) "title" =
      some ((Members.get? e.rest "title").getD (.str e.title)) := by
  rw [get?_documentMembers, get?_furtherKeywords e (by decide)]
  cases Members.get? e.rest "title" <;> rfl

/-- A key that the compiler does not write is a further key that is no option. -/
theorem get?_documentMembers_of_not_owned (e : Entity) (properties : Members) {k : String}
    (hk : k ∉ ownedKeys) : Members.get? (e.documentMembers properties) k =
      if Directive.isOption k then none else Members.get? e.rest k := by
  simp only [ownedKeys, List.mem_cons, List.not_mem_nil, or_false, not_or] at hk
  obtain ⟨h₁, h₂, h₃, h₄, h₅⟩ := hk
  rw [get?_documentMembers, if_neg h₅, if_neg h₄, if_neg h₃, if_neg h₂, Members.get?_cons,
    if_neg (Ne.symm h₁), Members.get?_nil, Option.or_none, furtherKeywords,
    Members.get?_filter fun k => !Directive.isOption k]
  cases Directive.isOption k <;> rfl

end Entity

/-- **Further keys.** The document of a compiled entity has the type, the closedness, the required
names and the properties that the compiler writes, whatever further keys the entity has; its title
is that of the entity unless a further key `title` gives another. Every other further key is in the
options or in the document, as the vocabulary of options says, with its value, and not in both.
Nothing else is there, except for a description that serves as the comment. -/
theorem compiled_further_keys {c : Compiler} {e : Entity} {a : Artifact} (h : c.compile e = .ok a) :
    a.name = e.title ∧
    a.schema.get? "title" = some ((Members.get? e.rest "title").getD (.str e.title)) ∧
    a.schema.get? "type" = some (.str "object") ∧
    a.schema.get? "additionalProperties" = some (.bool false) ∧
    a.schema.get? "required" = some (Json.ofStrings e.required) ∧
    (∃ ps, c.normalize e = .ok ps ∧
      a.schema.get? "properties" = some (.obj (ps.map fun p => (p.1, p.2.schema)))) ∧
    ∀ k ∉ Entity.ownedKeys,
      if Directive.isOption k then a.schema.get? k = none ∧ Members.get? a.options k =
        (Members.get? e.rest k).or (if k = "comment" then Property.spareComment e.rest else none)
      else a.schema.get? k = Members.get? e.rest k ∧ Members.get? a.options k = none := by
  obtain ⟨ps, d, hps, -, rfl⟩ := Compiler.compile_eq_ok.1 h
  have document (k : String) : (e.document (ps.map fun p => (p.1, p.2.schema))).get? k =
      Members.get? (e.documentMembers (ps.map fun p => (p.1, p.2.schema))) k := rfl
  refine ⟨rfl, e.get?_documentMembers_title _, ?_, ?_, ?_, ⟨ps, hps, ?_⟩, ?_⟩
  · simp [document, Entity.get?_documentMembers]
  · simp [document, Entity.get?_documentMembers]
  · simp [document, Entity.get?_documentMembers]
  · simp [document, Entity.get?_documentMembers]
  · intro k hk
    rw [document, Entity.get?_documentMembers_of_not_owned e _ hk, Entity.get?_options]
    cases Directive.isOption k with
    | true => exact ⟨rfl, rfl⟩
    | false => exact ⟨rfl, rfl⟩

/-- An entity with an option, a description, a keyword of its own, and keys that the compiler
owns. -/
def Entity.overlaid : Entity :=
  ((((Entity.withString "type" (.str "array")).setOption "additionalProperties" (.bool true)).setOption
    "tableName" (.str "t")).setOption "description" (.str "d")).setOption "minProperties"
      (.num (.int 1))

theorem overlaid_keys : ∃ a, Compiler.standard.compile .overlaid = .ok a ∧ a.name = "T" ∧
    a.schema.get? "title" = some (.str "T") ∧ a.schema.get? "type" = some (.str "object") ∧
    a.schema.get? "additionalProperties" = some (.bool false) ∧
    (a.schema.get? "tableName" = none ∧ Members.get? a.options "tableName" = some (.str "t")) ∧
    (a.schema.get? "minProperties" = some (.num (.int 1)) ∧
      Members.get? a.options "minProperties" = none) ∧
    Members.get? a.options "comment" = some (.str "d") := by
  obtain ⟨a, ha⟩ := exists_of_isOk (x := Compiler.standard.compile .overlaid) (by decide +kernel)
  obtain ⟨hname, htitle, htype, hclosed, -, -, further⟩ := compiled_further_keys ha
  exact ⟨a, ha, hname, htitle, htype, hclosed, further "tableName" (by decide),
    further "minProperties" (by decide), (further "comment" (by decide)).2⟩

/-- An entity with a further key for the title. -/
def Entity.retitled : Entity := .withString "title" (.str "X")

/-- A further key takes the place of the title, while the entity keeps its name. -/
theorem compiled_document_retitled : ∃ a, Compiler.standard.compile .retitled = .ok a ∧
    Entity.retitled.title = "T" ∧ a.name = "T" ∧ a.schema.get? "title" = some (.str "X") := by
  have run : (Compiler.standard.compile .retitled).toOption.map
      (fun a => (a.name, a.schema.get? "title")) = some ("T", some (.str "X")) := by decide +kernel
  obtain ⟨a, ha, run⟩ := Option.map_eq_some_iff.1 run
  obtain ⟨hname, htitle⟩ := Prod.mk.inj run
  exact ⟨a, toOption_eq_some.1 ha, rfl, hname, htitle⟩

end EntitySchema
