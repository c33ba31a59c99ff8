import EntitySchema.TypeExpr.Basic
import EntitySchema.Proofs.Json.Members

/-!
# What a path names

The first part of a path is an entry of the catalog, and each further part is a modifier that the
class of the entry supports (`Catalog.Names`). A path that is so names a bare type with these
modifiers (`Catalog.resolve?_eq_some_iff`), whose text is the path again (`Catalog.Names.text`). Any
other path names nothing. The steps that go on from there, calling a type and chaining modifiers to
it, are characterized alike: when they succeed, what they give, and what they fail with.
-/

namespace EntitySchema

/-- An error that has no place yet. -/
def SchemaError.unplaced (p : SchemaProblem) : SchemaError := ⟨p, none, none⟩

namespace StorageType

variable {name : String} {cls : TypeClass} {args : List TypeArgument} {old ms : List Modifier}
  {u : StorageType} {e : SchemaError}

/-! ## Modifiers -/

theorem modify_eq_ok_iff {m : Modifier} : modify ⟨name, cls, args, old⟩ m = .ok u ↔
    cls.supports m = true ∧ u = ⟨name, cls, args, old ++ [m]⟩ := by
  unfold modify
  by_cases h : cls.supports m = true
  · simp [h, eq_comm]
  · simp [h, fail]

theorem modify_eq_error_iff {m : Modifier} : modify ⟨name, cls, args, old⟩ m = .error e ↔
    cls.supports m = false ∧
      e = .unplaced (.unknownDataType (text ⟨name, cls, args, old⟩ ++ "." ++ m.name)) := by
  unfold modify
  by_cases h : cls.supports m = true
  · simp [h]
  · simp [h, fail, SchemaError.of, SchemaError.unplaced, eq_comm]

/-- Modifiers that are all supported stand behind those that are there. -/
theorem modifyAll_eq_ok_iff : modifyAll ⟨name, cls, args, old⟩ ms = .ok u ↔
    (∀ m ∈ ms, cls.supports m = true) ∧ u = ⟨name, cls, args, old ++ ms⟩ := by
  unfold modifyAll
  induction ms generalizing old with
  | nil =>
    rw [List.append_nil]
    exact ⟨fun h => ⟨nofun, (Except.ok.inj h).symm⟩, fun h => h.2 ▸ rfl⟩
  | cons m ms ih =>
    rw [List.foldlM_cons, bind_eq_ok, List.forall_mem_cons]
    constructor
    · rintro ⟨s, hs, h⟩
      obtain ⟨hm, rfl⟩ := modify_eq_ok_iff.1 hs
      obtain ⟨hms, rfl⟩ := ih.1 h
      exact ⟨⟨hm, hms⟩, by simp⟩
    · rintro ⟨⟨hm, hms⟩, rfl⟩
      exact ⟨_, modify_eq_ok_iff.2 ⟨hm, rfl⟩, ih.2 ⟨hms, by simp⟩⟩

/-- A chain of modifiers fails at the first one that is not supported. -/
theorem modifyAll_eq_error_iff : modifyAll ⟨name, cls, args, old⟩ ms = .error e ↔
    ∃ done m more, ms = done ++ m :: more ∧ (∀ n ∈ done, cls.supports n = true) ∧
      cls.supports m = false ∧ e = .unplaced (.unknownDataType
        (text ⟨name, cls, args, old ++ done⟩ ++ "." ++ m.name)) := by
  unfold modifyAll
  induction ms generalizing old with
  | nil => simp [pure, Except.pure]
  | cons m ms ih =>
    rw [List.foldlM_cons, bind_eq_error]
    constructor
    · rintro (h | ⟨s, hs, h⟩)
      · obtain ⟨hm, rfl⟩ := modify_eq_error_iff.1 h
        exact ⟨[], m, ms, rfl, nofun, hm, by rw [List.append_nil]⟩
      · obtain ⟨hm, rfl⟩ := modify_eq_ok_iff.1 hs
        obtain ⟨done, n, more, rfl, hdone, hn, rfl⟩ := ih.1 h
        exact ⟨m :: done, n, more, rfl, List.forall_mem_cons.2 ⟨hm, hdone⟩, hn, by simp⟩
    · rintro ⟨_ | ⟨n, done⟩, k, more, hms, hdone, hk, rfl⟩
      · cases hms
        exact .inl (modify_eq_error_iff.2 ⟨hk, by rw [List.append_nil]⟩)
      · cases hms
        obtain ⟨hm, hdone⟩ := List.forall_mem_cons.1 hdone
        refine .inr ⟨_, modify_eq_ok_iff.2 ⟨hm, rfl⟩, ?_⟩
        exact ih.2 ⟨done, k, more, rfl, hdone, hk, by simp⟩

/-! ## Calls -/

/-- A type that is called is the type with these arguments. -/
theorem call_eq_ok {t : StorageType} (h : t.call args = .ok u) : u = { t with args := args } := by
  unfold call at h
  split at h
  · cases h
  · split at h
    · cases h
    · exact (Except.ok.inj h).symm

/-- Of the types that were never called, those without modifiers that are no constants can be. -/
theorem call_eq_ok_iff : call ⟨name, cls, [], old⟩ args = .ok u ↔
    (old = [] ∧ cls ≠ .constant) ∧ u = ⟨name, cls, args, old⟩ := by
  unfold call
  by_cases hc : cls = .constant
  · simp [hc, TypeClass.callable, fail]
  · by_cases hm : old = []
    · subst hm
      rw [if_neg (by simp [hc, TypeClass.callable]), if_neg (by simp)]
      exact ⟨fun h => ⟨⟨rfl, hc⟩, (Except.ok.inj h).symm⟩, fun h => h.2 ▸ rfl⟩
    · simp [hc, hm, TypeClass.callable, fail]

theorem call_eq_error_iff : call ⟨name, cls, [], old⟩ args = .error e ↔
    cls = .constant ∧ e = .unplaced (.invalidDataType
        (text ⟨name, cls, [], old⟩ ++ " is not a type constructor")) ∨
    cls ≠ .constant ∧ old ≠ [] ∧ e = .unplaced (.invalidDataType
        (text ⟨name, cls, [], old⟩ ++ " has already been constructed")) := by
  unfold call
  by_cases hc : cls = .constant
  · rw [if_pos (by simp [hc, TypeClass.callable])]
    simp [hc, fail, SchemaError.of, SchemaError.unplaced, eq_comm]
  · rw [if_neg (by simp [hc, TypeClass.callable])]
    by_cases hm : old = []
    · simp [hc, hm]
    · rw [if_pos (by simp [hm])]
      simp [hc, hm, fail, SchemaError.of, SchemaError.unplaced, eq_comm (b := e)]

end StorageType

namespace Catalog

variable {c : Catalog} {path name : String} {cls : TypeClass} {ms : List Modifier}
  {t u : StorageType} {e : SchemaError}

/-! ## Paths -/

/-- The parts of a path between its dots. -/
def segments (path : String) : List String := (Text.splitOn '.' path.toList).map String.ofList

/-- The first part of a path is an entry of a class, and the further parts are modifiers that this
class supports. -/
structure Names (c : Catalog) (path name : String) (cls : TypeClass) (ms : List Modifier) :
    Prop where
  parts : segments path = name :: ms.map Modifier.name
  entry : Members.get? c.entries name = some cls
  supported : ∀ m ∈ ms, cls.supports m = true

/-- The parts of a path that are chained are names of modifiers. -/
theorem chain_eq_some_iff {parts : List String} : chain t parts = some u ↔
    ∃ ms, parts = ms.map Modifier.name ∧ t.modifyAll ms = .ok u := by
  induction parts generalizing t with
  | nil =>
    constructor
    · intro h
      cases h
      exact ⟨[], rfl, rfl⟩
    · rintro ⟨ms, hms, h⟩
      obtain rfl : ms = [] := by simpa using hms.symm
      cases h
      rfl
  | cons part parts ih =>
    constructor
    · intro h
      obtain ⟨m, hm, h⟩ := Option.bind_eq_some_iff.1 h
      obtain ⟨s, hs, h⟩ := Option.bind_eq_some_iff.1 h
      obtain ⟨ms, rfl, run⟩ := ih.1 h
      refine ⟨m :: ms, by rw [List.map_cons, Modifier.name_of_ofName? hm], ?_⟩
      exact bind_eq_ok.2 ⟨s, toOption_eq_some.1 hs, run⟩
    · rintro ⟨_ | ⟨m, ms⟩, hms, h⟩
      · cases hms
      · obtain ⟨rfl, rfl⟩ := List.cons.inj hms
        obtain ⟨s, hs, h⟩ := bind_eq_ok.1 h
        refine Option.bind_eq_some_iff.2 ⟨m, Modifier.ofName?_name m, ?_⟩
        exact Option.bind_eq_some_iff.2 ⟨s, toOption_eq_some.2 hs, ih.2 ⟨ms, rfl, h⟩⟩

/-- **What a path names**: the entry of its first part, with the modifiers of the further ones. -/
theorem resolve?_eq_some_iff : c.resolve? path = some t ↔
    ∃ name cls ms, c.Names path name cls ms ∧ t = ⟨name, cls, [], ms⟩ := by
  have parts : segments path = (Text.splitOn '.' path.toList).map String.ofList := rfl
  unfold resolve?
  cases hs : Text.splitOn '.' path.toList with
  | nil => exact absurd hs (Text.splitOn_ne_nil _)
  | cons head rest =>
    rw [hs, List.map_cons] at parts
    constructor
    · intro h
      obtain ⟨cls, hcls, h⟩ := Option.bind_eq_some_iff.1 h
      obtain ⟨ms, hms, h⟩ := chain_eq_some_iff.1 h
      obtain ⟨supported, rfl⟩ := StorageType.modifyAll_eq_ok_iff.1 h
      exact ⟨_, cls, ms, ⟨hms ▸ parts, hcls, supported⟩, rfl⟩
    · rintro ⟨name, cls, ms, h, rfl⟩
      obtain ⟨rfl, hms⟩ := List.cons.inj (parts.symm.trans h.parts)
      refine Option.bind_eq_some_iff.2 ⟨cls, h.entry, chain_eq_some_iff.2 ⟨ms, hms, ?_⟩⟩
      exact StorageType.modifyAll_eq_ok_iff.2 ⟨h.supported, rfl⟩

theorem Names.resolve? (h : c.Names path name cls ms) :
    c.resolve? path = some ⟨name, cls, [], ms⟩ :=
  resolve?_eq_some_iff.2 ⟨name, cls, ms, h, rfl⟩

/-- A type that is named by a path is written as the path. -/
theorem Names.text (h : c.Names path name cls ms) :
    (StorageType.mk name cls [] ms).text = path := by
  have parts : Text.splitOn '.' path.toList = name.toList :: ms.map fun m => m.name.toList := by
    have characters := congrArg (List.map String.toList) h.parts
    simpa [segments, Function.comp_def] using characters
  have joined : ['.'].intercalate (Text.splitOn '.' path.toList) = path.toList :=
    Text.intercalate_splitOn _
  rw [parts, Text.intercalate_cons] at joined
  rw [StorageType.text, ← String.ofList_toList (s := path), ← joined]
  simp [StorageType.chars, StorageType.modifierChars, List.flatMap_map]

theorem resolve?_eq_none_iff :
    c.resolve? path = none ↔ ∀ name cls ms, ¬c.Names path name cls ms := by
  rw [Option.eq_none_iff_forall_ne_some]
  constructor
  · intro h name cls ms hnames
    exact h _ hnames.resolve?
  · intro h t ht
    obtain ⟨name, cls, ms, hnames, -⟩ := resolve?_eq_some_iff.1 ht
    exact h name cls ms hnames

theorem get_eq_ok : c.get path = .ok t ↔ c.resolve? path = some t := by
  unfold get
  cases c.resolve? path with
  | none => exact ⟨nofun, nofun⟩
  | some u => rw [Except.ok.injEq, Option.some.injEq]

theorem get_eq_ok_iff : c.get path = .ok t ↔
    ∃ name cls ms, c.Names path name cls ms ∧ t = ⟨name, cls, [], ms⟩ := by
  rw [get_eq_ok, resolve?_eq_some_iff]

theorem get_eq_error_iff : c.get path = .error e ↔
    (∀ name cls ms, ¬c.Names path name cls ms) ∧ e = .unplaced (.unknownDataType path) := by
  rw [← resolve?_eq_none_iff]
  unfold get
  cases c.resolve? path with
  | some t => simp
  | none => simp [fail, SchemaError.of, SchemaError.unplaced, eq_comm]

end Catalog

end EntitySchema
