import EntitySchema.Proofs.Storage.Paths

/-!
# Types of a catalog

A path names a type that was never called, and the text of this type is the path
(`Catalog.text_of_resolve?`). What a path names does not depend on the other names of the catalog,
so a catalog that knows more names alike resolves the same paths alike
(`Catalog.ExtendedBy.resolve?`).
-/

namespace EntitySchema

namespace Catalog

variable {c : Catalog}

/-- A path names a type that was never called. -/
theorem args_of_resolve? {path : String} {t : StorageType} (h : c.resolve? path = some t) :
    t.args = [] := by
  obtain ⟨name, cls, ms, -, rfl⟩ := resolve?_eq_some_iff.1 h
  rfl

/-- The text of a type that a path names is the path. -/
theorem text_of_resolve? {path : String} {t : StorageType} (h : c.resolve? path = some t) :
    t.text = path := by
  obtain ⟨name, cls, ms, names, rfl⟩ := resolve?_eq_some_iff.1 h
  exact names.text

/-- A path without a dot names its entry. -/
theorem resolve?_of_not_mem {name : String} (hname : '.' ∉ name.toList) :
    c.resolve? name = (Members.get? c.entries name).map (.bare name) := by
  rw [resolve?, Text.splitOn_of_not_mem hname]
  simp only [String.ofList_toList]
  cases Members.get? c.entries name with
  | none => rfl
  | some cls => rfl

theorem resolve?_of_entry {name : String} {cls : TypeClass}
    (h : Members.get? c.entries name = some cls) (hname : '.' ∉ name.toList) :
    c.resolve? name = some (.bare name cls) := by
  rw [resolve?_of_not_mem hname, h]
  rfl

/-! ## Extensions -/

/-- Whether another catalog knows the same names alike, and maybe further ones. -/
def ExtendedBy (c c' : Catalog) : Prop :=
  ∀ name cls, Members.get? c.entries name = some cls → Members.get? c'.entries name = some cls

/-- Registering a new name changes none of the others. -/
theorem extendedBy_register {name : String} (h : name ∉ c.names) (cls : TypeClass) :
    c.ExtendedBy (c.register name cls) := fun n w hn => by
  have other : name ≠ n := fun he => h (he ▸ Members.mem_keys_of_get? hn)
  exact (Members.get?_insert_of_ne other).trans hn

namespace ExtendedBy

variable {c' : Catalog}

/-- What a path names does not depend on names that it does not mention. -/
theorem resolve? (h : c.ExtendedBy c') {path : String} {t : StorageType}
    (ht : c.resolve? path = some t) : c'.resolve? path = some t := by
  obtain ⟨name, cls, ms, names, rfl⟩ := resolve?_eq_some_iff.1 ht
  exact Names.resolve? ⟨names.parts, h _ _ names.entry, names.supported⟩

theorem get (h : c.ExtendedBy c') (path : String) : Carries (c.get path) (c'.get path) :=
  fun _ ht => get_eq_ok.2 (h.resolve? (get_eq_ok.1 ht))

end ExtendedBy

end Catalog

end EntitySchema
