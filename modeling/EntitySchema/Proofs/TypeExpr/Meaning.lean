import EntitySchema.Proofs.TypeExpr.Evaluation

/-!
# What an expression denotes

An expression denotes a storage type when its path names one, its arguments denote what the type is
called with, and the class supports the flagged modifiers (`Descriptor.Denotes`). Arguments nest, so
the relation is about expressions, arguments and references together. An expression that denotes
nothing fails, and which error it fails with is a relation of the same shape
(`Descriptor.FailsWith`): its constructors are the stages of an evaluation, and each one says that
the stages before it went well. Whatever stage fails, the error is that of a storage type that is
not known or cannot be built (`Descriptor.FailsWith.typeFault`).

Evaluation decides both (`Descriptor.evaluation_characterized`).
-/

namespace EntitySchema

/-! ## Success -/

mutual

/-- The storage type of an expression. -/
inductive Descriptor.Denotes (c : Catalog) : Descriptor → StorageType → Prop where
  | intro {d : Descriptor} {name : String} {cls : TypeClass} {ms : List Modifier}
      {bs : List TypeArgument} (path : c.Names d.path name cls ms)
      (args : List.Forall₂ (Argument.Denotes c) d.args bs)
      (call : d.args ≠ [] → ms = [] ∧ cls ≠ .constant)
      (flags : ∀ m ∈ d.flags.list, cls.supports m = true) :
      Descriptor.Denotes c d ⟨name, cls, bs, ms ++ d.flags.list⟩

/-- What an argument passes on: a literal itself, anything else the storage type it stands for. -/
inductive Argument.Denotes (c : Catalog) : Argument → TypeArgument → Prop where
  | literal (v : Json) : Argument.Denotes c (.literal v) (.literal v)
  | nested {d : Descriptor} {t : StorageType} (type : Descriptor.Denotes c d t) :
      Argument.Denotes c (.nested d) (.type t)
  | schema {r : TypeRef} {keywords : Members} {t : StorageType} (type : TypeRef.Denotes c r t) :
      Argument.Denotes c (.schema ⟨some r, keywords⟩) (.type t)

/-- The storage type of a reference. -/
inductive TypeRef.Denotes (c : Catalog) : TypeRef → StorageType → Prop where
  | name {n name : String} {cls : TypeClass} {ms : List Modifier} (path : c.Names n name cls ms) :
      TypeRef.Denotes c (.name n) ⟨name, cls, [], ms⟩
  | expr {d : Descriptor} {t : StorageType} (type : Descriptor.Denotes c d t) :
      TypeRef.Denotes c (.expr d) t

end

/-! ## Failure -/

mutual

/-- The error of an expression, by the first stage that fails. -/
inductive Descriptor.FailsWith (c : Catalog) : Descriptor → SchemaError → Prop where
  /-- The path names nothing. -/
  | path {d : Descriptor} (nothing : ∀ name cls ms, ¬c.Names d.path name cls ms) :
      Descriptor.FailsWith c d (.unplaced (.unknownDataType d.path))
  /-- The path names a type, and an argument fails behind others that do not. -/
  | argument {d : Descriptor} {name : String} {cls : TypeClass} {ms : List Modifier}
      {good more : List Argument} {bad : Argument} {bs : List TypeArgument} {e : SchemaError}
      (path : c.Names d.path name cls ms) (args : d.args = good ++ bad :: more)
      (before : List.Forall₂ (Argument.Denotes c) good bs) (fails : Argument.FailsWith c bad e) :
      Descriptor.FailsWith c d e
  /-- A constant is called. -/
  | constant {d : Descriptor} {name : String} {ms : List Modifier} {bs : List TypeArgument}
      (path : c.Names d.path name .constant ms)
      (args : List.Forall₂ (Argument.Denotes c) d.args bs) (called : d.args ≠ []) :
      Descriptor.FailsWith c d
        (.unplaced (.invalidDataType (d.path ++ " is not a type constructor")))
  /-- A type that has modifiers already is called. -/
  | constructed {d : Descriptor} {name : String} {cls : TypeClass} {ms : List Modifier}
      {bs : List TypeArgument} (path : c.Names d.path name cls ms)
      (args : List.Forall₂ (Argument.Denotes c) d.args bs) (called : d.args ≠ [])
      (type : cls ≠ .constant) (modified : ms ≠ []) :
      Descriptor.FailsWith c d
        (.unplaced (.invalidDataType (d.path ++ " has already been constructed")))
  /-- A flagged modifier is not supported, behind others that are. -/
  | modifier {d : Descriptor} {name : String} {cls : TypeClass} {ms done more : List Modifier}
      {m : Modifier} {bs : List TypeArgument} (path : c.Names d.path name cls ms)
      (args : List.Forall₂ (Argument.Denotes c) d.args bs)
      (call : d.args ≠ [] → ms = [] ∧ cls ≠ .constant) (flags : d.flags.list = done ++ m :: more)
      (before : ∀ n ∈ done, cls.supports n = true) (unsupported : cls.supports m = false) :
      Descriptor.FailsWith c d (.unplaced (.unknownDataType
        (StorageType.text ⟨name, cls, bs, ms ++ done⟩ ++ "." ++ m.name)))

/-- The error of an argument. -/
inductive Argument.FailsWith (c : Catalog) : Argument → SchemaError → Prop where
  | nested {d : Descriptor} {e : SchemaError} (fails : Descriptor.FailsWith c d e) :
      Argument.FailsWith c (.nested d) e
  | schema {r : TypeRef} {keywords : Members} {e : SchemaError} (fails : TypeRef.FailsWith c r e) :
      Argument.FailsWith c (.schema ⟨some r, keywords⟩) e
  | untyped (keywords : Members) : Argument.FailsWith c (.schema ⟨none, keywords⟩)
      (.unplaced (.invalidDataType
        ("type argument " ++ (Json.obj keywords).text ++ " has no data type")))

/-- The error of a reference. -/
inductive TypeRef.FailsWith (c : Catalog) : TypeRef → SchemaError → Prop where
  | name {n : String} (nothing : ∀ name cls ms, ¬c.Names n name cls ms) :
      TypeRef.FailsWith c (.name n) (.unplaced (.invalidDataType (Text.shown n)))
  | expr {d : Descriptor} {e : SchemaError} (fails : Descriptor.FailsWith c d e) :
      TypeRef.FailsWith c (.expr d) e

end

variable {c : Catalog} {t : StorageType} {e : SchemaError}

/-- A storage type is not known or cannot be built. -/
def SchemaError.IsTypeFault (e : SchemaError) : Prop :=
  e.code = "SCHEMA_UNKNOWN_DATA_TYPE" ∨ e.code = "SCHEMA_INVALID_DATA_TYPE"

mutual

/-- What fails is a storage type, and its error has no place yet. -/
theorem Descriptor.FailsWith.typeFault : {d : Descriptor} → {e : SchemaError} →
    d.FailsWith c e → e.IsTypeFault ∧ ∃ p, e = .unplaced p
  | _, _, .path _ => ⟨.inl rfl, _, rfl⟩
  | _, _, .argument _ _ _ fails => fails.typeFault
  | _, _, .constant _ _ _ => ⟨.inr rfl, _, rfl⟩
  | _, _, .constructed _ _ _ _ _ => ⟨.inr rfl, _, rfl⟩
  | _, _, .modifier _ _ _ _ _ _ => ⟨.inl rfl, _, rfl⟩

theorem Argument.FailsWith.typeFault : {a : Argument} → {e : SchemaError} →
    a.FailsWith c e → e.IsTypeFault ∧ ∃ p, e = .unplaced p
  | _, _, .nested fails => fails.typeFault
  | _, _, .schema fails => fails.typeFault
  | _, _, .untyped _ => ⟨.inr rfl, _, rfl⟩

theorem TypeRef.FailsWith.typeFault : {r : TypeRef} → {e : SchemaError} →
    r.FailsWith c e → e.IsTypeFault ∧ ∃ p, e = .unplaced p
  | _, _, .name _ => ⟨.inr rfl, _, rfl⟩
  | _, _, .expr fails => fails.typeFault

end

/-! ## Evaluation -/

mutual

/-- An expression evaluates to what it denotes. -/
theorem Descriptor.eval_eq_ok_iff : (d : Descriptor) → {t : StorageType} →
    (d.eval c = .ok t ↔ d.Denotes c t)
  | ⟨path, args, flags⟩, t => by
    rw [Descriptor.eval_eq_ok_iff_args]
    simp only [forall₂_denotes_iff args]
    constructor
    · rintro ⟨name, cls, ms, bs, names, hargs, call, hflags, rfl⟩
      exact .intro names hargs call hflags
    · intro h
      cases h with
      | intro names hargs call hflags => exact ⟨_, _, _, _, names, hargs, call, hflags, rfl⟩

theorem forall₂_denotes_iff : (as : List Argument) → {bs : List TypeArgument} →
    (List.Forall₂ (fun a b => a.eval c = .ok b) as bs ↔ List.Forall₂ (Argument.Denotes c) as bs)
  | [], bs => by rw [List.forall₂_nil_left_iff, List.forall₂_nil_left_iff]
  | a :: as, bs => by
    simp only [List.forall₂_cons_left_iff, Argument.eval_eq_ok_iff a, forall₂_denotes_iff as]

/-- An argument evaluates to what it denotes. -/
theorem Argument.eval_eq_ok_iff : (a : Argument) → {b : TypeArgument} →
    (a.eval c = .ok b ↔ a.Denotes c b)
  | .literal v, b => by
    constructor
    · intro h
      cases h
      exact .literal v
    · intro h
      cases h
      rfl
  | .nested d, b => by
    rw [Argument.eval, bind_eq_ok]
    constructor
    · rintro ⟨t, ht, h⟩
      cases h
      exact .nested ((Descriptor.eval_eq_ok_iff d).1 ht)
    · intro h
      cases h with
      | nested ht => exact ⟨_, (Descriptor.eval_eq_ok_iff d).2 ht, rfl⟩
  | .schema ⟨some r, _⟩, b => by
    rw [Argument.eval, bind_eq_ok]
    constructor
    · rintro ⟨t, ht, h⟩
      cases h
      exact .schema ((TypeRef.eval_eq_ok_iff r).1 ht)
    · intro h
      cases h with
      | schema ht => exact ⟨_, (TypeRef.eval_eq_ok_iff r).2 ht, rfl⟩
  | .schema ⟨none, _⟩, b => by
    rw [Argument.eval]
    exact ⟨nofun, nofun⟩

/-- A reference evaluates to what it denotes. -/
theorem TypeRef.eval_eq_ok_iff : (r : TypeRef) → {t : StorageType} →
    (r.eval c = .ok t ↔ r.Denotes c t)
  | .name n, t => by
    rw [TypeRef.eval_name_eq_ok, Catalog.resolve?_eq_some_iff]
    constructor
    · rintro ⟨name, cls, ms, names, rfl⟩
      exact .name names
    · intro h
      cases h with
      | name names => exact ⟨_, _, _, names, rfl⟩
  | .expr d, t => by
    rw [TypeRef.eval, Descriptor.eval_eq_ok_iff d]
    constructor
    · exact .expr
    · intro h
      cases h with
      | expr ht => exact ht

end

mutual

/-- An expression fails with the error of its first stage that fails. -/
theorem Descriptor.eval_eq_error_iff : (d : Descriptor) → {e : SchemaError} →
    (d.eval c = .error e ↔ d.FailsWith c e)
  | ⟨path, args, flags⟩, e => by
    rw [Descriptor.eval_eq_error_iff_args]
    simp only [forall₂_denotes_iff]
    constructor
    · rintro (h | ⟨name, cls, ms, names, h | ⟨bs, hargs, ⟨called, h⟩ | ⟨call, h⟩⟩⟩)
      · obtain ⟨nothing, rfl⟩ := Catalog.get_eq_error_iff.1 h
        exact .path nothing
      · obtain ⟨good, bad, more, bs, hargs, before, h⟩ := h
        have listed : bad ∈ args := by simp [show args = good ++ bad :: more from hargs]
        exact .argument names hargs before ((forall_failsWith_iff args bad listed _).1 h)
      · rcases StorageType.call_eq_error_iff.1 h with ⟨rfl, rfl⟩ | ⟨type, modified, rfl⟩
        · rw [names.text]
          exact .constant names hargs called
        · rw [names.text]
          exact .constructed names hargs called type modified
      · obtain ⟨done, m, more, hflags, before, unsupported, rfl⟩ :=
          StorageType.modifyAll_eq_error_iff.1 h
        exact .modifier names hargs call hflags before unsupported
    · intro h
      cases h with
      | path nothing => exact .inl (Catalog.get_eq_error_iff.2 ⟨nothing, rfl⟩)
      | @argument _ _ _ _ good more bad bs _ names hargs before fails =>
        have listed : bad ∈ args := by simp [show args = good ++ bad :: more from hargs]
        have h := (forall_failsWith_iff args bad listed _).2 fails
        exact .inr ⟨_, _, _, names, .inl ⟨good, bad, more, bs, hargs, before, h⟩⟩
      | constant names hargs called =>
        refine .inr ⟨_, _, _, names, .inr ⟨_, hargs, .inl ⟨called, ?_⟩⟩⟩
        exact StorageType.call_eq_error_iff.2 (.inl ⟨rfl, by rw [names.text]⟩)
      | constructed names hargs called type modified =>
        refine .inr ⟨_, _, _, names, .inr ⟨_, hargs, .inl ⟨called, ?_⟩⟩⟩
        exact StorageType.call_eq_error_iff.2 (.inr ⟨type, modified, by rw [names.text]⟩)
      | modifier names hargs call hflags before unsupported =>
        refine .inr ⟨_, _, _, names, .inr ⟨_, hargs, .inr ⟨call, ?_⟩⟩⟩
        exact StorageType.modifyAll_eq_error_iff.2 ⟨_, _, _, hflags, before, unsupported, rfl⟩

theorem forall_failsWith_iff : (as : List Argument) →
    ∀ a ∈ as, ∀ e, a.eval c = .error e ↔ a.FailsWith c e
  | [] => nofun
  | a :: as => List.forall_mem_cons.2
    ⟨fun _ => Argument.eval_eq_error_iff a, forall_failsWith_iff as⟩

/-- An argument fails with the error of what it stands for, or for want of a storage type. -/
theorem Argument.eval_eq_error_iff : (a : Argument) → {e : SchemaError} →
    (a.eval c = .error e ↔ a.FailsWith c e)
  | .literal v, e => by
    rw [Argument.eval]
    exact ⟨nofun, nofun⟩
  | .nested d, e => by
    rw [Argument.eval, bind_eq_error]
    constructor
    · rintro (h | ⟨_, _, h⟩)
      · exact .nested ((Descriptor.eval_eq_error_iff d).1 h)
      · cases h
    · intro h
      cases h with
      | nested h => exact .inl ((Descriptor.eval_eq_error_iff d).2 h)
  | .schema ⟨some r, _⟩, e => by
    rw [Argument.eval, bind_eq_error]
    constructor
    · rintro (h | ⟨_, _, h⟩)
      · exact .schema ((TypeRef.eval_eq_error_iff r).1 h)
      · cases h
    · intro h
      cases h with
      | schema h => exact .inl ((TypeRef.eval_eq_error_iff r).2 h)
  | .schema ⟨none, keywords⟩, e => by
    rw [Argument.eval]
    constructor
    · intro h
      cases h
      exact .untyped keywords
    · intro h
      cases h
      rfl

/-- A reference fails as its expression does, or because its name is no path. -/
theorem TypeRef.eval_eq_error_iff : (r : TypeRef) → {e : SchemaError} →
    (r.eval c = .error e ↔ r.FailsWith c e)
  | .name n, e => by
    rw [TypeRef.eval]
    constructor
    · intro h
      split at h
      · cases h
      · next hnone =>
        cases h
        exact .name (Catalog.resolve?_eq_none_iff.1 hnone)
    · intro h
      cases h with
      | name nothing =>
        rw [Catalog.resolve?_eq_none_iff.2 nothing]
        rfl
  | .expr d, e => by
    rw [TypeRef.eval, Descriptor.eval_eq_error_iff d]
    constructor
    · exact .expr
    · intro h
      cases h with
      | expr h => exact h

end

/-! ## Characterization -/

/-- What it takes for an expression to have a storage type. -/
theorem Descriptor.exists_denotes_iff {d : Descriptor} : (∃ t, d.Denotes c t) ↔
    ∃ name cls ms, c.Names d.path name cls ms ∧ (∀ m ∈ d.flags.list, cls.supports m = true) ∧
      (d.args ≠ [] → ms = [] ∧ cls ≠ .constant ∧ ∀ a ∈ d.args, ∃ b, a.Denotes c b) := by
  constructor
  · rintro ⟨_, ⟨names, args, call, flags⟩⟩
    refine ⟨_, _, _, names, flags, fun called => ?_⟩
    exact ⟨(call called).1, (call called).2, exists_forall₂_iff.1 ⟨_, args⟩⟩
  · rintro ⟨name, cls, ms, names, flags, call⟩
    have denoted : ∀ a ∈ d.args, ∃ b, a.Denotes c b := fun a ha =>
      (call (List.ne_nil_of_mem ha)).2.2 a ha
    obtain ⟨bs, args⟩ := exists_forall₂_iff.2 denoted
    exact ⟨_, .intro names args (fun called => ⟨(call called).1, (call called).2.1⟩) flags⟩

/-- **Evaluation.** An expression evaluates just when its path names a type, its flags are supported
and, if it has arguments, the type can be called and every argument denotes something. What it
evaluates to is what it denotes, and what it fails with is the error of the first stage that
fails. -/
theorem Descriptor.evaluation_characterized (c : Catalog) (d : Descriptor) :
    ((∃ t, d.eval c = .ok t) ↔ ∃ name cls ms, c.Names d.path name cls ms ∧
      (∀ m ∈ d.flags.list, cls.supports m = true) ∧
      (d.args ≠ [] → ms = [] ∧ cls ≠ .constant ∧ ∀ a ∈ d.args, ∃ b, a.Denotes c b)) ∧
    (∀ t, d.eval c = .ok t ↔ d.Denotes c t) ∧
    ∀ e, d.eval c = .error e ↔ d.FailsWith c e := by
  refine ⟨?_, fun t => d.eval_eq_ok_iff, fun e => d.eval_eq_error_iff⟩
  rw [← exists_denotes_iff]
  exact exists_congr fun t => d.eval_eq_ok_iff

end EntitySchema
