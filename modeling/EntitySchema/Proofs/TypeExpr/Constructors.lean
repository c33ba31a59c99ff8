import EntitySchema.TypeExpr.Family
import EntitySchema.Proofs.TypeExpr.Literals
import EntitySchema.Proofs.TypeExpr.Stability

/-!
# Constructed fragments on the wire

A constructor takes its arguments for what it needs: `ARRAY` and `RANGE` take every object for a
fragment, the scalar constructors take everything for a literal. Written and read again, a
constructed fragment has the same schema and the same path, but an argument is then what reading
makes of it. So the fragment survives just when every argument reads as it was taken
(`constructed_fragment_survives_iff`). A scalar fragment that does not survive has another storage
type or none.
-/

namespace EntitySchema

variable {name type path : String} {args : List Json} {f : Fragment} {v : Json}

/-- A storage type that a fragment has in a catalog. -/
def Fragment.EvaluatesTo (f : Fragment) (c : Catalog) (t : StorageType) : Prop :=
  ∃ r, f.dataType = some r ∧ r.eval c = .ok t

namespace Constructor

/-- Whether an argument reads as what a constructor takes it for. -/
def ReadsAsTaken (name : String) (v : Json) : Prop :=
  if isComposite name then ¬v.IsExpression else v.IsLiteral

/-! ## Reading a constructed fragment -/

/-- What is written of a constructed fragment is read as a constructed fragment. -/
theorem decode_encode_tagged (type path : String) (as : List Argument) :
    Fragment.decode (tagged type path as).encode =
      .ok (tagged type path (as.map Argument.reread)) := by
  have distinct : (Members.keys [("dataType", Descriptor.encode ⟨path, as, {}⟩),
      ("type", .str type)]).Nodup := by
    show ["dataType", "type"].Nodup
    decide
  have settled : ∀ m ∈ [("dataType", Descriptor.encode ⟨path, as, {}⟩), ("type", .str type)],
      m.1 ≠ "dataType" → m.2.Settled := by
    simp [Json.Settled, Json.settle]
  have read := TypeRef.read?_of_decode
    (TypeRef.decode_of_expression (Descriptor.decode_encode ⟨path, as, {}⟩))
  have written : (tagged type path as).encode =
      .obj [("dataType", Descriptor.encode ⟨path, as, {}⟩), ("type", .str type)] := rfl
  rw [written, Fragment.decode_obj distinct settled, Members.get?_cons, if_pos rfl, read]
  rfl

/-- A constructed fragment does not read as an expression. -/
theorem not_isExpression_tagged (as : List Argument) :
    ¬(tagged type path as).encode.IsExpression := by
  rintro ⟨d, h⟩
  cases h

theorem tagged_inj {as bs : List Argument} :
    tagged type path as = tagged type path bs ↔ as = bs := by
  simp [tagged]

/-! ## Arguments of composite constructors -/

theorem bare_eq_ok (h : bare name = .ok f) : ∃ type, f = tagged type name [] := by
  unfold bare at h
  split at h
  · cases h
    exact ⟨_, rfl⟩
  · unfold scalar at h
    split at h
    · cases h
      exact ⟨_, rfl⟩
    · cases h

theorem reread_bare (h : bare name = .ok f) : (Argument.schema f).reread = .schema f := by
  obtain ⟨type, rfl⟩ := bare_eq_ok h
  exact decodeArgument_of_fragment (not_isExpression_tagged []) (decode_encode_tagged type name [])

/-- An argument of a composite constructor is read again as the fragment it was taken for, unless it
reads as an expression. -/
theorem reread_schemaArgument (hv : v.Settled) (h : schemaArgument v = .ok f) :
    (Argument.schema f).reread = .schema f ↔ ¬v.IsExpression := by
  cases v with
  | str n =>
    refine iff_of_true ?_ fun ⟨d, hd⟩ => by cases hd
    unfold schemaArgument at h
    dsimp only at h
    split at h
    · exact reread_bare h
    · cases h
  | obj ms =>
    have read : Fragment.decode (.obj ms) = .ok f := by
      unfold schemaArgument Fragment.ofJson at h
      dsimp only at h
      split at h
      · next hf =>
        cases h
        exact hf
      · cases h
    have again : Fragment.decode f.encode = .ok f := (Fragment.stable_of_settled hv read).2
    have same : f.encode.IsExpression ↔ (Json.obj ms).IsExpression := by
      rw [Json.IsExpression, Fragment.decode_descriptor_encode hv read]
      rfl
    rw [← same]
    constructor
    · rintro hr ⟨d, hd⟩
      have nested : (Argument.schema f).reread = .nested d := decodeArgument_of_expression hd
      cases hr.symm.trans nested
    · exact fun he => decodeArgument_of_fragment he again
  | _ => cases h

/-! ## Scalar constructors -/

/-- The scalar constructors name types of the standard catalog that can be called. -/
theorem resolve?_standard (h : family? name = some type) :
    ∃ cls, Catalog.standard.resolve? name = some (.bare name cls) ∧ cls.callable = true := by
  have named : name ∈ stringFamily ++ integerFamily ++ numberFamily := by
    unfold family? at h
    simp only [List.mem_append]
    split at h
    · exact .inl (.inl ‹_›)
    · split at h
      · exact .inl (.inr ‹_›)
      · split at h
        · exact .inr ‹_›
        · cases h
  have known : ∀ n ∈ stringFamily ++ integerFamily ++ numberFamily, '.' ∉ n.toList ∧
      (Members.get? Catalog.standard.entries n).any TypeClass.callable = true := by decide
  obtain ⟨hdot, hcls⟩ := known name named
  obtain ⟨cls, hget, hcall⟩ := (Option.any_eq_true _ _).1 hcls
  exact ⟨cls, Catalog.resolve?_of_entry hget hdot, hcall⟩

/-- A scalar fragment has the type of its name, called with its arguments. -/
theorem evaluatesTo_scalar (h : family? name = some type) (args : List Json) : ∃ t,
    (tagged type name (args.map .literal)).EvaluatesTo .standard t ∧
    t.args = args.map .literal := by
  obtain ⟨cls, hr, hcall⟩ := resolve?_standard h
  have literals : (args.map Argument.literal).mapM (Argument.eval .standard) =
      .ok (args.map TypeArgument.literal) := by
    rw [List.mapM_map]
    exact mapM_eq_ok fun _ _ => rfl
  have applied : (StorageType.bare name cls).applied (args.map .literal) =
      .ok ⟨name, cls, args.map .literal, []⟩ := by
    unfold StorageType.applied StorageType.call
    rw [StorageType.bare, hcall]
    cases args <;> rfl
  refine ⟨⟨name, cls, args.map .literal, []⟩, ⟨_, rfl, ?_⟩, rfl⟩
  rw [TypeRef.eval, Descriptor.eval_eq, Catalog.get_eq_ok.2 hr]
  simp only [literals, applied, bind, Except.bind]
  rfl

/-- The arguments of a scalar fragment that keeps its storage type when read again are literals. -/
theorem isLiteral_of_reread {t : StorageType} (hs : ∀ v ∈ args, v.Settled)
    (h : (tagged type name (args.map fun v => decodeArgument v)).EvaluatesTo .standard t)
    (ht : t.args = args.map .literal) : ∀ v ∈ args, v.IsLiteral := by
  obtain ⟨r, hr, heval⟩ := h
  cases hr
  intro v hv
  have evaluated := Descriptor.args_of_eval heval
  rw [ht, List.mapM_map] at evaluated
  obtain ⟨b, hb, hv'⟩ := (mem_of_mapM evaluated).2 v hv
  obtain ⟨w, -, rfl⟩ := List.mem_map.1 hb
  rcases Argument.eval_decode (hs v hv) hv' with ⟨-, hl⟩ | ⟨_, _, _, -, -, -, htype⟩
  · exact hl
  · cases htype

/-- What a constructor makes of its arguments. -/
theorem call_eq_ok (h : call name args = .ok f) : ∃ type as, f = tagged type name as ∧
    (isComposite name = true ∧ (∃ fs, args.mapM schemaArgument = .ok fs ∧ as = fs.map .schema) ∨
      isComposite name = false ∧ family? name = some type ∧ as = args.map .literal) := by
  unfold call at h
  split at h
  · next hc =>
    obtain ⟨fs, hfs, h⟩ := bind_eq_ok.1 h
    cases h
    exact ⟨_, _, rfl, .inl ⟨hc, fs, hfs, rfl⟩⟩
  · next hc =>
    unfold scalar at h
    split at h
    · next type hfamily =>
      cases h
      exact ⟨type, _, rfl, .inr ⟨by simpa using hc, hfamily, rfl⟩⟩
    · cases h

/-- A literal reads as it was taken just when it is one. -/
theorem reread_literal (hv : v.Settled) :
    (Argument.literal v).reread = .literal v ↔ v.IsLiteral := by
  constructor
  · intro h
    have heval : (decodeArgument v).eval .empty = .ok (.literal v) := by
      rw [show decodeArgument v = .literal v from h]
      rfl
    rcases Argument.eval_decode hv heval with ⟨-, hl⟩ | ⟨_, _, _, -, -, -, htype⟩
    · exact hl
    · cases htype
  · rintro ⟨he, hf⟩
    exact (decodeArgument_of_other he hf).trans (congrArg _ hv)

end Constructor

/-- **Constructed fragments on the wire.** What is written of a constructed fragment is read as a
fragment with the same schema. It is the same fragment just when every argument reads as it was
taken; of a scalar constructor, it does not even have the same storage types otherwise. -/
theorem constructed_fragment_survives_iff (hs : ∀ v ∈ args, v.Settled)
    (h : Constructor.call name args = .ok f) :
    ∃ g, Fragment.decode f.encode = .ok g ∧ g.schema = f.schema ∧
      (g = f ↔ ∀ v ∈ args, Constructor.ReadsAsTaken name v) ∧
      (Constructor.isComposite name = false →
        (∀ t, g.EvaluatesTo .standard t ↔ f.EvaluatesTo .standard t) →
          ∀ v ∈ args, Constructor.ReadsAsTaken name v) := by
  obtain ⟨type, as, rfl, hkind⟩ := Constructor.call_eq_ok h
  refine ⟨_, Constructor.decode_encode_tagged type name as, rfl, ?_, ?_⟩
  · -- The fragments differ in their arguments at most, so each argument can be looked at alone.
    rw [Constructor.tagged_inj, map_eq_self_iff]
    rcases hkind with ⟨hc, fs, hfs, rfl⟩ | ⟨hc, -, rfl⟩
    · obtain ⟨back, forth⟩ := mem_of_mapM hfs
      simp only [List.forall_mem_map, Constructor.ReadsAsTaken, hc, if_true]
      constructor
      · intro hread v hv
        obtain ⟨f, hf, hvf⟩ := forth v hv
        exact (Constructor.reread_schemaArgument (hs v hv) hvf).1 (hread f hf)
      · intro hread f hf
        obtain ⟨v, hv, hvf⟩ := back f hf
        exact (Constructor.reread_schemaArgument (hs v hv) hvf).2 (hread v hv)
    · simp only [List.forall_mem_map, Constructor.ReadsAsTaken, hc, Bool.false_eq_true, if_false]
      exact forall₂_congr fun v hv => Constructor.reread_literal (hs v hv)
  · intro hc same v hv
    rcases hkind with ⟨hc', -⟩ | ⟨-, hfamily, rfl⟩
    · cases hc.symm.trans hc'
    · obtain ⟨t, ht, hargs⟩ := Constructor.evaluatesTo_scalar hfamily args
      have again := (same t).2 ht
      rw [List.map_map] at again
      rw [Constructor.ReadsAsTaken, hc]
      exact Constructor.isLiteral_of_reread hs again hargs v hv

/-- A fragment with a storage type, and the bare name of a constructor. -/
def Json.plainArguments : List Json :=
  [.obj [("type", .str "string"), ("dataType", .str "DATE")], .str "INTEGER"]

theorem range_of_fragments_survives : ∃ f g, Constructor.call "RANGE" Json.plainArguments = .ok f ∧
    Fragment.decode f.encode = .ok g ∧ g = f := by
  obtain ⟨f, hf⟩ := exists_of_isOk (x := Constructor.call "RANGE" Json.plainArguments)
    (by decide +kernel)
  have settled : ∀ v ∈ Json.plainArguments, v.Settled := by decide +kernel
  obtain ⟨g, hg, -, hsame, -⟩ := constructed_fragment_survives_iff settled hf
  refine ⟨f, g, hf, hg, hsame.2 fun v hv => ?_⟩
  obtain rfl | rfl : v = _ ∨ v = _ := by simpa [Json.plainArguments] using hv
  · rintro ⟨d, hd⟩
    cases hd
  · rintro ⟨d, hd⟩
    cases hd

/-- An expression for a storage type without arguments. -/
def Json.integerExpression : Json := .obj [("kind", .str "DataType"), ("path", .str "INTEGER")]

/-- An array of an expression has no storage type before it is written, since a fragment without one
is what `ARRAY` takes the expression for, and has one afterwards. A string of an object has one
before, with the object as a literal, and none afterwards. -/
theorem constructed_fragment_changes :
    (∃ f g t, Constructor.call "ARRAY" [.integerExpression] = .ok f ∧
      Fragment.decode f.encode = .ok g ∧ (∀ u, ¬f.EvaluatesTo .standard u) ∧
      g.EvaluatesTo .standard t) ∧
    ∃ f g t, Constructor.call "STRING" [.obj [("type", .str "string")]] = .ok f ∧
      Fragment.decode f.encode = .ok g ∧ f.EvaluatesTo .standard t ∧
      ∀ u, ¬g.EvaluatesTo .standard u := by
  constructor
  · refine ⟨_, _, _, rfl, rfl, ?_, _, rfl, rfl⟩
    rintro u ⟨r, hr, h⟩
    cases hr
    cases h
  · refine ⟨_, _, _, rfl, rfl, ⟨_, rfl, rfl⟩, ?_⟩
    rintro u ⟨r, hr, h⟩
    cases hr
    cases h

end EntitySchema
