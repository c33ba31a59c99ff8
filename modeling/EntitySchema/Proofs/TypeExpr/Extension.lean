import EntitySchema.Proofs.TypeExpr.Evaluation

/-!
# Evaluation in a larger catalog

What evaluates in a catalog evaluates to the same in a larger one (`TypeRef.eval_carries`): no step
of an evaluation succeeds because a look-up failed. The induction is over expressions, arguments and
references together.
-/

namespace EntitySchema

variable {c c' : Catalog}

mutual

theorem Descriptor.eval_carries (h : c.ExtendedBy c') :
    (d : Descriptor) → Carries (d.eval c) (d.eval c')
  | ⟨path, [], _⟩ => (h.get path).bind fun _ => .refl _
  | ⟨path, a :: as, _⟩ =>
    (h.get path).bind fun _ => (Argument.eval_carries h a).bind fun _ =>
      (evalArguments_carries h as).bind fun _ => .refl _

theorem Argument.eval_carries (h : c.ExtendedBy c') :
    (a : Argument) → Carries (a.eval c) (a.eval c')
  | .nested d => (Descriptor.eval_carries h d).bind fun _ => .refl _
  | .schema ⟨some r, _⟩ => (TypeRef.eval_carries h r).bind fun _ => .refl _
  | .schema ⟨none, _⟩ => nofun
  | .literal _ => .refl _

theorem evalArguments_carries (h : c.ExtendedBy c') :
    (as : List Argument) → Carries (evalArguments c as) (evalArguments c' as)
  | [] => .refl _
  | a :: as => (Argument.eval_carries h a).bind fun _ =>
    (evalArguments_carries h as).bind fun _ => .refl _

/-- **Evaluation in a larger catalog**: what has a storage type keeps it. -/
theorem TypeRef.eval_carries (h : c.ExtendedBy c') : (r : TypeRef) → Carries (r.eval c) (r.eval c')
  | .name _ => fun _ ht =>
    TypeRef.eval_name_eq_ok.2 (h.resolve? (TypeRef.eval_name_eq_ok.1 ht))
  | .expr d => Descriptor.eval_carries h d

end

end EntitySchema
