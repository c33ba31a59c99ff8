import EntitySchema.Fragment
import EntitySchema.Proofs.TypeExpr.Meaning
import Mathlib.Data.List.Count

/-!
# Setting a modifier

A modifier is set on the expression of a fragment: it becomes a flag there, or stops being one. The
storage type carries the flagged modifiers behind those that the path of the expression names, so it
has a modifier as often as the path names it, and once more if it is flagged
(`modifier_is_chained_behind_path`). Nothing else in the storage type changes.

Setting a modifier leaves the path alone. So one that the path names is there twice when it is set,
and still there when it is cleared (`modifier_of_path_stays`).
-/

namespace EntitySchema

theorem Modifier.name_injective : Function.Injective Modifier.name := by
  intro m n h
  have read := Modifier.ofName?_name m
  rw [h, Modifier.ofName?_name] at read
  exact (Option.some.inj read).symm

namespace Flags

variable {f : Flags} {m n : Modifier} {state : Bool}

theorem mem_list : m ∈ f.list ↔ f.has m = true := by
  rw [list, List.mem_filter]
  cases m <;> simp [Modifier.all]

/-- A flagged modifier is applied once. -/
theorem count_list : f.list.count m = if f.has m then 1 else 0 := by
  by_cases h : f.has m = true
  · rw [if_pos h, list, List.count_filter h]
    cases m <;> rfl
  · rw [if_neg h, List.count_eq_zero, mem_list]
    exact h

/-- The flags are supported after one was set just when the set one is. -/
theorem forall_mem_list_set {p : Modifier → Prop} (h : ∀ n ∈ f.list, p n) :
    (∀ n ∈ (f.set m state).list, p n) ↔ (state = true → p m) := by
  simp only [mem_list, has_set] at h ⊢
  constructor
  · intro hset hstate
    exact hset m (by rw [if_pos rfl]; exact hstate)
  · intro hm n hn
    by_cases hnm : n = m
    · rw [if_pos hnm] at hn
      exact hnm ▸ hm hn
    · rw [if_neg hnm] at hn
      exact h n hn

end Flags

namespace Catalog.Names

variable {c : Catalog} {path name name' : String} {cls cls' : TypeClass} {ms ms' : List Modifier}

/-- The modifiers of a path, each as often as it is named. -/
theorem count (h : c.Names path name cls ms) (m : Modifier) :
    ms.count m = (segments path).tail.count m.name := by
  rw [h.parts, List.tail_cons, List.count_map_of_injective _ _ Modifier.name_injective]

/-- A path names one type. -/
theorem unique (h : c.Names path name cls ms) (h' : c.Names path name' cls' ms') :
    name' = name ∧ cls' = cls ∧ ms' = ms := by
  have same := h'.resolve?.symm.trans h.resolve?
  simp only [Option.some.injEq, StorageType.mk.injEq, true_and] at same
  exact same

end Catalog.Names

namespace TypeRef

def path : TypeRef → String
  | .name n => n
  | .expr d => d.path

/-- How often the path of a reference names a modifier, behind the entry of the catalog. -/
def timesNamed (r : TypeRef) (m : Modifier) : Nat := (Catalog.segments r.path).tail.count m.name

theorem path_promote (r : TypeRef) : r.promote.path = r.path := by cases r <;> rfl

/-- A name has the storage type of the expression that stands for it. -/
theorem eval_promote {c : Catalog} {r : TypeRef} {t : StorageType} :
    r.promote.eval c = .ok t ↔ r.eval c = .ok t := by
  cases r with
  | expr d => rfl
  | name n =>
    rw [promote, Descriptor.ofPath, Descriptor.eval, bind_eq_ok, eval_name_eq_ok]
    constructor
    · rintro ⟨s, hs, h⟩
      cases h
      exact Catalog.get_eq_ok.1 hs
    · intro h
      exact ⟨t, Catalog.get_eq_ok.2 h, rfl⟩

end TypeRef

section
variable {c : Catalog} {r : TypeRef} {t : StorageType}

/-- What becomes of an expression that evaluates when a modifier is set on it. -/
theorem Descriptor.eval_setFlag {d : Descriptor} (h : d.eval c = .ok t) (m : Modifier)
    (state : Bool) : ∃ base,
    t.modifiers = base ++ d.flags.list ∧
    (∀ n, base.count n = (Catalog.segments d.path).tail.count n.name) ∧
    ∀ u, (d.setFlag m state).eval c = .ok u ↔ (state = true → t.cls.supports m = true) ∧
      u = ⟨t.name, t.cls, t.args, base ++ (d.flags.set m state).list⟩ := by
  obtain ⟨name, cls, base, bs, names, args, call, flags, rfl⟩ := eval_eq_ok_iff_args.1 h
  refine ⟨base, rfl, names.count, fun u => ?_⟩
  have evaluates (supported : state = true → cls.supports m = true) :
      (d.setFlag m state).eval c = .ok ⟨name, cls, bs, base ++ (d.flags.set m state).list⟩ :=
    eval_eq_ok_iff_args.2
      ⟨name, cls, base, bs, names, args, call, (Flags.forall_mem_list_set flags).2 supported, rfl⟩
  constructor
  · intro hu
    obtain ⟨name', cls', base', bs', names', -, -, flags', -⟩ := eval_eq_ok_iff_args.1 hu
    obtain ⟨-, rfl, -⟩ := names.unique names'
    have supported := (Flags.forall_mem_list_set flags).1 flags'
    exact ⟨supported, Except.ok.inj (hu.symm.trans (evaluates supported))⟩
  · rintro ⟨supported, rfl⟩
    exact evaluates supported

/-- **Setting a modifier.** A fragment whose storage type evaluates keeps evaluating when a modifier
is cleared, or set and supported by the class of the type. The type then has this modifier as often
as the path names it, and once more if it is set; the rest of the type is as before. -/
theorem modifier_is_chained_behind_path {f : Fragment} (hr : f.dataType = some r)
    (ht : r.eval c = .ok t) (m : Modifier) (state : Bool) : ∃ r',
      f.setModifier m state = .ok { f with dataType := some r' } ∧
      ((∃ u, r'.eval c = .ok u) ↔ (state = true → t.cls.supports m = true)) ∧
      ∀ u, r'.eval c = .ok u →
        u.modifiers.count m = r.timesNamed m + (if state then 1 else 0) ∧
        u.name = t.name ∧ u.cls = t.cls ∧ u.args = t.args ∧
        ∀ n, n ≠ m → u.modifiers.count n = t.modifiers.count n := by
  obtain ⟨base, hbase, hcount, hset⟩ :=
    Descriptor.eval_setFlag (TypeRef.eval_promote.2 ht) m state
  have set : f.setModifier m state =
      .ok { f with dataType := some (.expr (r.promote.setFlag m state)) } := by
    rw [Fragment.setModifier, hr]
    rfl
  refine ⟨.expr (r.promote.setFlag m state), set, ?_, fun u hu => ?_⟩
  · simp only [TypeRef.eval, hset, exists_and_left, exists_eq, and_true]
  · obtain ⟨-, rfl⟩ := (hset u).1 hu
    rw [hbase]
    refine ⟨?_, rfl, rfl, rfl, fun n hn => ?_⟩
    · rw [List.count_append, Flags.count_list, Flags.has_set, if_pos rfl, hcount,
        TypeRef.path_promote]
      rfl
    · rw [List.count_append, List.count_append, Flags.count_list, Flags.count_list, Flags.has_set,
        if_neg hn]

end

/-- A sized integer that is filled up with zeros. -/
def Fragment.filledInteger : Fragment :=
  ⟨some (.expr ⟨"INTEGER", [.literal (.num (.int 10))], { zerofill := true }⟩),
    [("type", .str "integer")]⟩

theorem unsigned_is_set_once : ∃ r' u,
    Fragment.filledInteger.setModifier .unsigned true =
      .ok { Fragment.filledInteger with dataType := some r' } ∧
    r'.eval .standard = .ok u ∧ u.modifiers.count .unsigned = 1 ∧
    u.modifiers.count .zerofill = 1 ∧ u.args.length = 1 := by
  obtain ⟨r', set, evaluates, kept⟩ := modifier_is_chained_behind_path
    (f := .filledInteger) (c := .standard) rfl rfl .unsigned true
  obtain ⟨u, hu⟩ := evaluates.2 fun _ => rfl
  obtain ⟨count, -, -, args, others⟩ := kept u hu
  refine ⟨r', u, set, hu, ?_, ?_, ?_⟩
  · rw [count]
    decide +kernel
  · rw [others .zerofill (by decide)]
    rfl
  · rw [args]
    rfl

/-- An integer whose path names a modifier. -/
def Fragment.unsignedByPath : Fragment :=
  ⟨some (.name "INTEGER.UNSIGNED"), [("type", .str "integer")]⟩

/-- A modifier that the path names is there twice after it was set, and still once after it was
cleared. -/
theorem modifier_of_path_stays :
    (∃ r t, Fragment.unsignedByPath.dataType = some r ∧ r.eval .standard = .ok t) ∧
    (∃ f r u, Fragment.unsignedByPath.setModifier .unsigned true = .ok f ∧ f.dataType = some r ∧
      r.eval .standard = .ok u ∧ u.modifiers.count .unsigned = 2) ∧
    ∃ f r u, Fragment.unsignedByPath.setModifier .unsigned false = .ok f ∧ f.dataType = some r ∧
      r.eval .standard = .ok u ∧ u.modifiers.count .unsigned = 1 :=
  ⟨⟨_, _, rfl, rfl⟩, ⟨_, _, _, rfl, rfl, rfl, rfl⟩, ⟨_, _, _, rfl, rfl, rfl, rfl⟩⟩

end EntitySchema
