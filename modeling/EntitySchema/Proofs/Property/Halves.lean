import EntitySchema.Proofs.Entity.Compilation

/-!
# The halves of a property

What `Property.split` puts into the two halves, in terms of the members of the fragment: the column
takes null as the permission of the fragment says, or as the property and its schema imply, and the
schema is the fragment without its directives, in a union with null where a permission asks for it.
-/

namespace EntitySchema

/-- What a fragment says about null itself. -/
def Fragment.permission (f : Fragment) : Option Bool := (f.get? "allowNull").bind Json.bool?

/-- The members of a fragment that are no directives. -/
def Fragment.validation (f : Fragment) : Members := Property.validationOf f.keywords

namespace Property

theorem get?_validationOf (ms : Members) (k : String) :
    Members.get? (validationOf ms) k =
      if Directive.isColumn k then none else Members.get? ms k := by
  rw [validationOf, Members.get?_filter (fun k => !Directive.isColumn k)]
  cases Directive.isColumn k <;> rfl

theorem get?_directivesOf (ms : Members) (k : String) :
    Members.get? (directivesOf ms) k = if Directive.isColumn k then Members.get? ms k else none :=
  Members.get?_filter Directive.isColumn ms k

theorem get?_addComment {validation directives : Members} {k : String} (hk : k ≠ "comment") :
    Members.get? (addComment validation directives) k = Members.get? directives k := by
  unfold addComment
  split
  · exact Members.get?_insert_of_ne hk.symm
  · rfl

/-- What serves as a comment where none is given: a description that is a string. -/
def spareComment (validation : Members) : Option Json :=
  ((Members.get? validation "description").bind Json.str?).map .str

theorem get?_addComment_comment (validation directives : Members) :
    Members.get? (addComment validation directives) "comment" =
      (Members.get? directives "comment").or (spareComment validation) := by
  unfold addComment spareComment
  split
  · next s hnone hd =>
    obtain hnone : Members.get? directives "comment" = none := by
      simpa [Members.has] using hnone
    rw [Members.get?_insert_self, hnone, hd]
    rfl
  · next hno =>
    cases hc : Members.get? directives "comment" with
    | some c => rfl
    | none =>
      have absent : Members.has directives "comment" = false := by rw [Members.has, hc]; rfl
      cases hd : Members.get? validation "description" with
      | none => rfl
      | some d =>
        cases d with
        | str s => exact absurd hd (hno s absent)
        | _ => rfl

/-- The directives that a column is made of are those of the fragment, the comment apart. -/
theorem get?_given (f : Fragment) {k : String} (hk : Directive.isColumn k = true)
    (hc : k ≠ "comment") :
    Members.get? (addComment f.validation (directivesOf f.keywords)) k = f.get? k := by
  rw [get?_addComment hc, get?_directivesOf, if_pos hk]
  rfl

theorem get?_given_comment (f : Fragment) :
    Members.get? (addComment f.validation (directivesOf f.keywords)) "comment" =
      (f.get? "comment").or (spareComment f.validation) := by
  rw [get?_addComment_comment, get?_directivesOf, if_pos (by decide)]
  rfl

section
variable {c : Catalog} {json : StorageType} {f : Fragment} {required : Bool} {p : Property}

/-- **Splitting.** The directives of a property that is split are in order, its storage type and its
default evaluate, and both halves are made of these and of the members of the fragment. -/
theorem split_cases (h : split c json f required = .ok p) :
    checkDirectives f.keywords = .ok () ∧ ∃ r d,
      resolve c json f.validation f.dataType = .ok r ∧
      defaultOf c (f.get? "defaultValue") f.validation r.type p.column.allowNull = .ok d ∧
      p.schema = (if f.permission == some true && !isNullTolerant f.validation
        then orNull (.obj f.validation) else .obj f.validation) ∧
      p.column = {
        type := r.type
        allowNull := f.permission.getD (!required || isNullTolerant f.validation)
        default := d
        primaryKey := (f.get? "primaryKey").bind Json.bool?
        comment := ((f.get? "comment").or (spareComment f.validation)).bind Json.str?
        values := ((f.get? "values").bind Json.arr?).or r.values
        options := restOf (addComment f.validation (directivesOf f.keywords)) } := by
  obtain ⟨⟨⟩, checked, h⟩ := bind_eq_ok.1 h
  obtain ⟨r, hr, h⟩ := bind_eq_ok.1 h
  obtain ⟨d, hd, h⟩ := bind_eq_ok.1 h
  rw [← get?_given f (k := "defaultValue") (by decide) (by decide),
    ← get?_given f (k := "primaryKey") (by decide) (by decide),
    ← get?_given f (k := "values") (by decide) (by decide), ← get?_given_comment,
    Fragment.permission, ← get?_given f (k := "allowNull") (by decide) (by decide)]
  cases h
  exact ⟨checked, r, d, hr, hd, rfl, rfl⟩

/-- Both halves of a property that is split. -/
theorem split_eq_ok (h : split c json f required = .ok p) :
    ∃ r, resolve c json f.validation f.dataType = .ok r ∧ p.column.type = r.type ∧
      p.column.allowNull = f.permission.getD (!required || isNullTolerant f.validation) ∧
      p.schema = if f.permission == some true && !isNullTolerant f.validation
        then orNull (.obj f.validation) else .obj f.validation := by
  obtain ⟨-, r, d, hr, -, hschema, hcolumn⟩ := split_cases h
  exact ⟨r, hr, by rw [hcolumn], by rw [hcolumn], hschema⟩

/-- The values of a column are those that the property lists, else those of its storage type. -/
theorem values_of_split {r : Resolution} (h : split c json f required = .ok p)
    (hr : resolve c json f.validation f.dataType = .ok r) :
    p.column.values = ((f.get? "values").bind Json.arr?).or r.values := by
  obtain ⟨-, r', d, hr', -, -, hcolumn⟩ := split_cases h
  obtain rfl : r' = r := Except.ok.inj (hr'.symm.trans hr)
  rw [hcolumn]

end

end Property

/-- A key that is no directive is passed on. -/
theorem Fragment.get?_validation (f : Fragment) {k : String} (hk : Directive.isColumn k = false) :
    Members.get? f.validation k = f.get? k := by
  rw [validation, Property.get?_validationOf, hk]
  rfl

end EntitySchema
