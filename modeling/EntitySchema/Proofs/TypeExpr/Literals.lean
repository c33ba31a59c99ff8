import EntitySchema.Proofs.TypeExpr.Evaluation

/-!
# What becomes a literal

An argument that reads neither as an expression nor as a fragment is a literal, and these are the
literals of the storage type that is evaluated from it (`TypeRef.hasLiteral_iff`). Every other
argument gives a storage type or makes the evaluation fail.

An object that stands as an argument is meant to name a storage type. One whose member for the
storage type is no reference is malformed: it reads as neither, so it passes for a literal
(`Json.isLiteral_obj`).
-/

namespace EntitySchema

variable {c : Catalog} {t : StorageType} {r : TypeRef} {v w x y : Json}

/-- A literal stands among the arguments of a storage type, or among those of an argument. -/
inductive StorageType.HasLiteral : StorageType → Json → Prop where
  | here {t : StorageType} {x : Json} (h : .literal x ∈ t.args) : HasLiteral t x
  | inside {t s : StorageType} {x : Json} (h : .type s ∈ t.args) (hx : HasLiteral s x) :
    HasLiteral t x

namespace Json

/-- Whether a value reads as a reference. -/
def IsReference (v : Json) : Prop := ∃ r, TypeRef.decode v = .ok r

/-- Whether an argument reads neither as an expression nor as a fragment. -/
def IsLiteral (y : Json) : Prop := ¬y.IsExpression ∧ ¬y.IsFragment

/-- The reference that gives an argument its storage type: an expression is one itself, any other
object may have one. -/
def StandsFor (y w : Json) : Prop :=
  y.IsExpression ∧ w = y ∨ ¬y.IsExpression ∧ y.get? "dataType" = some w ∧ w.IsReference

/-- What stands as an argument of a reference, or as an argument of an argument. -/
inductive ArgumentOf : Json → Json → Prop where
  | here {v x : Json} (h : x ∈ v.argumentItems) : ArgumentOf v x
  | inside {v y w x : Json} (h : y ∈ v.argumentItems) (hw : y.StandsFor w) (hx : ArgumentOf w x) :
    ArgumentOf v x

/-- An object that is no expression and has a storage type that is no reference. -/
def IsMalformed (x : Json) : Prop :=
  ¬x.IsExpression ∧ ∃ w, x.get? "dataType" = some w ∧ w ≠ .null ∧ ¬w.IsReference

/-! ## Readings of an argument -/

theorem StandsFor.unique {w' : Json} (h : y.StandsFor w) (h' : y.StandsFor w') : w = w' := by
  rcases h with ⟨he, rfl⟩ | ⟨hne, hw, -⟩ <;> rcases h' with ⟨he', rfl⟩ | ⟨hne', hw', -⟩
  · rfl
  · exact absurd he hne'
  · exact absurd he' hne
  · exact Option.some.inj (hw.symm.trans hw')

theorem StandsFor.settled (hy : y.Settled) (h : y.StandsFor w) : w.Settled := by
  rcases h with ⟨-, rfl⟩ | ⟨-, hw, -⟩
  · exact hy
  · exact hy.of_get? hw

/-- An object reads as a fragment unless it has a storage type that is no reference. -/
theorem isFragment_obj {ms : Members} (hs : (Json.obj ms).Settled) : (Json.obj ms).IsFragment ↔
    ∀ w, (Json.obj ms).get? "dataType" = some w → w = .null ∨ w.IsReference := by
  obtain ⟨hn, hm⟩ := settled_obj.1 hs
  have member : (Json.obj ms).get? "dataType" = Members.get? ms "dataType" := rfl
  rw [IsFragment, Fragment.decode_obj hn fun m hmem _ => hm m hmem, member]
  cases Members.get? ms "dataType" with
  | none => exact ⟨fun _ _ => nofun, fun _ => ⟨_, rfl⟩⟩
  | some w =>
    constructor
    · rintro ⟨f, hf⟩ _ ⟨⟩
      obtain ⟨r, hr, -⟩ := map_eq_ok.1 hf
      rcases TypeRef.read?_eq_ok hr with ⟨hnull, -⟩ | ⟨w', r', hw, -, hread⟩
      · exact .inl (by simpa using hnull)
      · cases hw
        exact .inr ⟨r', hread⟩
    · intro h
      obtain rfl | ⟨r, hr⟩ := h w rfl
      · exact ⟨_, rfl⟩
      · rw [TypeRef.read?_of_decode hr]
        exact ⟨_, rfl⟩

/-- The objects that pass for literals are the malformed ones. -/
theorem isLiteral_obj {ms : Members} (hs : (Json.obj ms).Settled) :
    (Json.obj ms).IsLiteral ↔ (Json.obj ms).IsMalformed := by
  rw [IsLiteral, IsMalformed, isFragment_obj hs]
  simp only [not_forall, not_or, exists_prop]

theorem ArgumentOf.settled (hv : v.Settled) (h : v.ArgumentOf x) : x.Settled := by
  induction h with
  | here hx => exact settled_of_mem_argumentItems hv hx
  | inside hy hw _ ih => exact ih (hw.settled (settled_of_mem_argumentItems hv hy))

theorem IsLiteral.not_standsFor (hs : y.Settled) (h : y.IsLiteral) : ¬y.StandsFor w := by
  rintro (⟨he, -⟩ | ⟨-, hw, href⟩)
  · exact h.1 he
  · obtain ⟨ms, rfl, -⟩ := exists_mem_of_get? hw
    obtain ⟨-, w', hw', -, hno⟩ := (isLiteral_obj hs).1 h
    exact hno (Option.some.inj (hw'.symm.trans hw) ▸ href)

end Json

/-- **What an argument evaluates to.** It is the argument itself if that is a literal, or else the
storage type of the reference that the argument stands for. -/
theorem Argument.eval_decode {b : TypeArgument} (hs : y.Settled)
    (h : (decodeArgument y).eval c = .ok b) :
    (b = .literal y ∧ y.IsLiteral) ∨
    ∃ w r t, y.StandsFor w ∧ TypeRef.decode w = .ok r ∧ r.eval c = .ok t ∧ b = .type t := by
  by_cases he : y.IsExpression
  · obtain ⟨d, hd⟩ := he
    rw [decodeArgument_of_expression hd, Argument.eval] at h
    obtain ⟨t, ht, h⟩ := bind_eq_ok.1 h
    cases h
    exact .inr ⟨y, .expr d, t, .inl ⟨⟨d, hd⟩, rfl⟩, TypeRef.decode_of_expression hd, ht, rfl⟩
  by_cases hf : y.IsFragment
  · obtain ⟨f, hf⟩ := hf
    rw [decodeArgument_of_fragment he hf] at h
    obtain ⟨ms, rfl, hread, -⟩ := Fragment.decode_eq_ok hs hf
    obtain ⟨dataType, keywords⟩ := f
    cases dataType with
    | none => cases h
    | some r =>
      rw [Argument.eval] at h
      obtain ⟨t, ht, h⟩ := bind_eq_ok.1 h
      cases h
      obtain ⟨w, hw, hr⟩ := TypeRef.read?_eq_some hread
      exact .inr ⟨w, r, t, .inr ⟨he, hw, r, hr⟩, hr, ht, rfl⟩
  · rw [decodeArgument_of_other he hf, hs] at h
    cases h
    exact .inl ⟨rfl, he, hf⟩

/-! ## Literals of a storage type -/

namespace TypeRef

theorem argumentOf_of_hasLiteral (hx : t.HasLiteral x) (hv : v.Settled)
    (hr : TypeRef.decode v = .ok r) (h : r.eval c = .ok t) : v.ArgumentOf x ∧ x.IsLiteral := by
  induction hx generalizing v r with
  | here hb =>
    -- The literal is what some argument evaluates to, and only a literal evaluates to one.
    obtain ⟨y, hy, heval⟩ := (args_of_eval hv hr h).1 _ hb
    have hs := Json.settled_of_mem_argumentItems hv hy
    rcases Argument.eval_decode hs heval with ⟨hlit, hl⟩ | ⟨_, _, _, -, -, -, htype⟩
    · cases hlit
      exact ⟨.here hy, hl⟩
    · cases htype
  | inside hb _ ih =>
    obtain ⟨y, hy, heval⟩ := (args_of_eval hv hr h).1 _ hb
    have hs := Json.settled_of_mem_argumentItems hv hy
    rcases Argument.eval_decode hs heval with ⟨hlit, -⟩ | ⟨w, r', s, hw, hr', hs', htype⟩
    · cases hlit
    · cases htype
      obtain ⟨hx, hl⟩ := ih (hw.settled hs) hr' hs'
      exact ⟨.inside hy hw hx, hl⟩

theorem hasLiteral_of_argumentOf (hx : v.ArgumentOf x) (hl : x.IsLiteral) (hv : v.Settled)
    (hr : TypeRef.decode v = .ok r) (h : r.eval c = .ok t) : t.HasLiteral x := by
  induction hx generalizing r t with
  | here hy =>
    obtain ⟨b, hb, heval⟩ := (args_of_eval hv hr h).2 _ hy
    have hs := Json.settled_of_mem_argumentItems hv hy
    rcases Argument.eval_decode hs heval with ⟨rfl, -⟩ | ⟨w, _, _, hw, -⟩
    · exact .here hb
    · exact absurd hw (hl.not_standsFor hs)
  | inside hy hw _ ih =>
    obtain ⟨b, hb, heval⟩ := (args_of_eval hv hr h).2 _ hy
    have hs := Json.settled_of_mem_argumentItems hv hy
    rcases Argument.eval_decode hs heval with ⟨-, hno⟩ | ⟨w', r', s, hw', hr', hs', rfl⟩
    · exact absurd hw (hno.not_standsFor hs)
    · -- Both readings name the same reference, so the induction is about the type that is there.
      obtain rfl := hw.unique hw'
      exact .inside hb (ih hl (hw.settled hs) hr' hs')

/-- **The literals of a storage type** are the arguments of its reference, at any depth, that read
neither as expressions nor as fragments. -/
theorem hasLiteral_iff (hv : v.Settled) (hr : TypeRef.decode v = .ok r) (h : r.eval c = .ok t) :
    t.HasLiteral x ↔ v.ArgumentOf x ∧ x.IsLiteral :=
  ⟨fun hx => argumentOf_of_hasLiteral hx hv hr h,
    fun ⟨hx, hl⟩ => hasLiteral_of_argumentOf hx hl hv hr h⟩

/-- The objects among the literals are the malformed ones among the arguments. -/
theorem hasLiteral_obj {o : Members} (hv : v.Settled) (hr : TypeRef.decode v = .ok r)
    (h : r.eval c = .ok t) :
    t.HasLiteral (.obj o) ↔ v.ArgumentOf (.obj o) ∧ (Json.obj o).IsMalformed := by
  rw [hasLiteral_iff hv hr h]
  exact and_congr_right fun hx => Json.isLiteral_obj (hx.settled hv)

end TypeRef

end EntitySchema
