import EntitySchema.Proofs.Storage.Catalog
import EntitySchema.Proofs.TypeExpr.Reading

/-!
# What expressions evaluate to

An expression is evaluated in steps, one after the other (`Descriptor.eval_eq`): its path, its
arguments, the call, the modifiers. Each step is known from what it reads, so when an expression
evaluates and what it fails with is known from its arguments (`Descriptor.eval_eq_ok_iff_args`,
`Descriptor.eval_eq_error_iff_args`). In particular the arguments of its storage type are what its
own arguments evaluate to (`Descriptor.args_of_eval`).
-/

namespace EntitySchema

variable {c : Catalog} {t : StorageType} {v y : Json} {e : SchemaError}

theorem evalArguments_eq (c : Catalog) (as : List Argument) :
    evalArguments c as = as.mapM (Argument.eval c) := by
  induction as with
  | nil => rfl
  | cons a as ih => rw [evalArguments, ih, List.mapM_cons]

/-- A type that is called with arguments, if there are any. -/
def StorageType.applied (t : StorageType) (args : List TypeArgument) : SchemaResult StorageType :=
  if args.isEmpty then return t else t.call args

section
variable {name : String} {cls : TypeClass} {ms : List Modifier} {bs : List TypeArgument}
  {args : List Argument} {R : Argument → TypeArgument → Prop}

/-- A type is called if the expression has arguments. -/
theorem StorageType.applied_eq_ok_iff (h : List.Forall₂ R args bs) :
    applied ⟨name, cls, [], ms⟩ bs = .ok t ↔
      (args ≠ [] → ms = [] ∧ cls ≠ .constant) ∧ t = ⟨name, cls, bs, ms⟩ := by
  unfold applied
  cases h with
  | nil => simp [pure, Except.pure, eq_comm (a := t)]
  | cons _ _ => simp [call_eq_ok_iff]

theorem StorageType.applied_eq_error_iff (h : List.Forall₂ R args bs) :
    applied ⟨name, cls, [], ms⟩ bs = .error e ↔
      args ≠ [] ∧ call ⟨name, cls, [], ms⟩ bs = .error e := by
  unfold applied
  cases h with
  | nil => simp [pure, Except.pure]
  | cons _ _ => simp

end

namespace Descriptor

/-- The steps of an evaluation. -/
theorem eval_eq (c : Catalog) (d : Descriptor) : d.eval c = (do
    let t ← c.get d.path
    let bs ← d.args.mapM (Argument.eval c)
    let t ← t.applied bs
    t.modifyAll d.flags.list) := by
  obtain ⟨path, args, flags⟩ := d
  cases args with
  | nil => rfl
  | cons a as =>
    rw [eval, evalArguments_eq]
    simp only [List.mapM_cons, bind_assoc, pure_bind]
    rfl

variable {d : Descriptor}

/-- When an expression evaluates, in terms of what its arguments evaluate to. -/
theorem eval_eq_ok_iff_args : d.eval c = .ok t ↔ ∃ name cls ms bs,
    c.Names d.path name cls ms ∧ List.Forall₂ (fun a b => a.eval c = .ok b) d.args bs ∧
      (d.args ≠ [] → ms = [] ∧ cls ≠ .constant) ∧ (∀ m ∈ d.flags.list, cls.supports m = true) ∧
      t = ⟨name, cls, bs, ms ++ d.flags.list⟩ := by
  rw [eval_eq]
  constructor
  · intro h
    obtain ⟨_, hpath, h⟩ := bind_eq_ok.1 h
    obtain ⟨name, cls, ms, names, rfl⟩ := Catalog.get_eq_ok_iff.1 hpath
    obtain ⟨bs, hbs, h⟩ := bind_eq_ok.1 h
    have args := mapM_eq_ok_iff.1 hbs
    obtain ⟨_, hcall, h⟩ := bind_eq_ok.1 h
    obtain ⟨call, rfl⟩ := (StorageType.applied_eq_ok_iff args).1 hcall
    obtain ⟨flags, rfl⟩ := StorageType.modifyAll_eq_ok_iff.1 h
    exact ⟨name, cls, ms, bs, names, args, call, flags, rfl⟩
  · rintro ⟨name, cls, ms, bs, names, args, call, flags, rfl⟩
    refine bind_eq_ok.2 ⟨_, Catalog.get_eq_ok_iff.2 ⟨name, cls, ms, names, rfl⟩, ?_⟩
    refine bind_eq_ok.2 ⟨bs, mapM_eq_ok_iff.2 args, ?_⟩
    refine bind_eq_ok.2 ⟨_, (StorageType.applied_eq_ok_iff args).2 ⟨call, rfl⟩, ?_⟩
    exact StorageType.modifyAll_eq_ok_iff.2 ⟨flags, rfl⟩

/-- When an expression fails, stage by stage. -/
theorem eval_eq_error_iff_args : d.eval c = .error e ↔ c.get d.path = .error e ∨
    ∃ name cls ms, c.Names d.path name cls ms ∧
      ((∃ good bad more bs, d.args = good ++ bad :: more ∧
        List.Forall₂ (fun a b => a.eval c = .ok b) good bs ∧ bad.eval c = .error e) ∨
      ∃ bs, List.Forall₂ (fun a b => a.eval c = .ok b) d.args bs ∧
        (d.args ≠ [] ∧ StorageType.call ⟨name, cls, [], ms⟩ bs = .error e ∨
        (d.args ≠ [] → ms = [] ∧ cls ≠ .constant) ∧
          StorageType.modifyAll ⟨name, cls, bs, ms⟩ d.flags.list = .error e)) := by
  rw [eval_eq]
  constructor
  · intro h
    rcases bind_eq_error.1 h with h | ⟨_, hpath, h⟩
    · exact .inl h
    obtain ⟨name, cls, ms, names, rfl⟩ := Catalog.get_eq_ok_iff.1 hpath
    refine .inr ⟨name, cls, ms, names, ?_⟩
    rcases bind_eq_error.1 h with h | ⟨bs, hbs, h⟩
    · exact .inl (mapM_eq_error_iff.1 h)
    have args := mapM_eq_ok_iff.1 hbs
    refine .inr ⟨bs, args, ?_⟩
    rcases bind_eq_error.1 h with h | ⟨_, hcall, h⟩
    · exact .inl ((StorageType.applied_eq_error_iff args).1 h)
    obtain ⟨call, rfl⟩ := (StorageType.applied_eq_ok_iff args).1 hcall
    exact .inr ⟨call, h⟩
  · rintro (h | ⟨name, cls, ms, names, h⟩)
    · exact bind_eq_error.2 (.inl h)
    refine bind_eq_error.2 (.inr ⟨_, Catalog.get_eq_ok_iff.2 ⟨name, cls, ms, names, rfl⟩, ?_⟩)
    rcases h with h | ⟨bs, args, h⟩
    · exact bind_eq_error.2 (.inl (mapM_eq_error_iff.2 h))
    refine bind_eq_error.2 (.inr ⟨bs, mapM_eq_ok_iff.2 args, ?_⟩)
    rcases h with h | ⟨call, h⟩
    · exact bind_eq_error.2 (.inl ((StorageType.applied_eq_error_iff args).2 h))
    · exact bind_eq_error.2 (.inr ⟨_, (StorageType.applied_eq_ok_iff args).2 ⟨call, rfl⟩, h⟩)

theorem args_of_eval (h : d.eval c = .ok t) : d.args.mapM (Argument.eval c) = .ok t.args := by
  obtain ⟨name, cls, ms, bs, -, args, -, -, rfl⟩ := eval_eq_ok_iff_args.1 h
  exact mapM_eq_ok_iff.2 args

end Descriptor

namespace TypeRef

theorem eval_name_eq_ok {n : String} : (TypeRef.name n).eval c = .ok t ↔ c.resolve? n = some t := by
  unfold eval
  cases c.resolve? n with
  | none => exact ⟨nofun, nofun⟩
  | some u =>
    show Except.ok u = Except.ok t ↔ _
    rw [Except.ok.injEq, Option.some.injEq]

/-- The arguments of a storage type are what the arguments of its reference evaluate to. -/
theorem args_of_eval {r : TypeRef} (hv : v.Settled) (hr : TypeRef.decode v = .ok r)
    (h : r.eval c = .ok t) :
    (∀ b ∈ t.args, ∃ y ∈ v.argumentItems, (decodeArgument y).eval c = .ok b) ∧
    ∀ y ∈ v.argumentItems, ∃ b ∈ t.args, (decodeArgument y).eval c = .ok b := by
  have args : (v.argumentItems.map decodeArgument).mapM (Argument.eval c) = .ok t.args := by
    cases r with
    | name n =>
      obtain rfl := TypeRef.decode_name hr
      rw [Catalog.args_of_resolve? (TypeRef.eval_name_eq_ok.1 h)]
      rfl
    | expr d =>
      rw [← Descriptor.args_of_decode hv (TypeRef.decode_expr hr)]
      exact Descriptor.args_of_eval h
  rw [List.mapM_map] at args
  exact mem_of_mapM args

end TypeRef

end EntitySchema
