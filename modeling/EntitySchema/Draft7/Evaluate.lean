import EntitySchema.Draft7.Reading

/-!
# Evaluation

`check` says what a schema has against a value; what a reference leads to is its parameter. A schema
object that holds a reference means what the reference leads to, and nothing else in it counts. So
a schema without references does not depend on the parameter.

`failuresAt` closes the knot: it follows references a bounded number of times. A check that ends
follows no more of them than there are pairs of a nesting level of the value and a schema that a
reference may lead to.

The failures of a referenced schema are reported at the place of the reference when the plan says
that the schema was read there, and at places counted from the referenced schema otherwise.

A check that does not end, because references lead back to themselves for one value, is cut off at
the bound and says nothing there.
-/

namespace EntitySchema.Draft7

/-! ## One schema -/

/-- The check of a schema object whose parts are understood. -/
def checkNode (g : Guide Verdict) (schema : Json) (ps : Parts Verdict) : Check :=
  fun place v =>
    match Reference.held? schema with
    | some r => g.lead r place v
    | none =>
      match schema with
      | .bool false => [⟨[], place, .falseSchema v⟩]
      | _ => ps.flatMap fun p => keyword ps p.1 p.2 place v

/-- What a schema has against a value. -/
def check (g : Guide Verdict) (schema : Json) : Check := view checkNode g schema

/-! ## Whole documents -/

/-- What the schema at `x` has against a value when references are looked up in `g`. `planFor` gives
the plan of a schema that was not read at the place of a reference to it. -/
def failuresAt (g : Reference.Index) (planFor : Reference.Spot → Plan) :
    Nat → Plan → Reference.Spot → Check
  | 0, _, x => check ⟨x.base, fun _ _ _ _ => []⟩ x.schema
  | n + 1, plan, x => check ⟨x.base, fun base r place v =>
      match Reference.resolve g base r with
      | .error _ => []
      | .ok (key, target) =>
        if plan.contains (place, key) then failuresAt g planFor n plan target place v
        else failuresAt g planFor n (planFor target) target [] v⟩ x.schema

/-- How many references a check of `v` may follow. -/
def referenceBound (root v : Json) : Nat := v.depth * reach root

/-- What a document has against a value. -/
def failures (root : Json) (plan : Plan) (v : Json) : List Failure :=
  failuresAt (.of root) (fun x => (planOf root x).toOption.getD []) (referenceBound root v)
    plan (Reference.top root) [] v

/-- What the schema of schemas has against a value, where the places in it do not matter. -/
def complaints (v : Json) : List Complaint :=
  (failuresAt Meta.index (fun _ => []) (v.depth * Meta.schema.size) [] Meta.top [] v).map
    Failure.complaint

end EntitySchema.Draft7
