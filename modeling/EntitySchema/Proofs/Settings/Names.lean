import EntitySchema.Proofs.Settings
import EntitySchema.Proofs.Storage.Catalog

/-!
# Names of storage types

The catalog of some settings has the standard names and the further ones. A further name that is
there already gets another class, so the class of a name is the one it was given last
(`Settings.get?_catalog`). Settings that make sense give no name with a dot in it, so that each name
is a path to its own type (`Settings.Gives.resolve?_name`).
-/

namespace EntitySchema

namespace Settings

variable {s : Settings} {json : StorageType} {name : String}

theorem entries_catalog (s : Settings) :
    s.catalog.entries = Members.insertAll Catalog.standard.entries s.customTypes := by
  have run (ts : List (String × TypeClass)) (c : Catalog) :
      (ts.foldl (fun c t => c.register t.1 t.2) c).entries = Members.insertAll c.entries ts := by
    induction ts generalizing c with
    | nil => rfl
    | cons t ts ih => exact ih _
  exact run s.customTypes .standard

/-- The class that a name was given last: by the further names, else by the standard catalog. -/
def classOf? (s : Settings) (name : String) : Option TypeClass :=
  (Members.get? s.customTypes.reverse name).or (Members.get? Catalog.standard.entries name)

theorem get?_catalog (s : Settings) (name : String) :
    Members.get? s.catalog.entries name = s.classOf? name := by
  rw [entries_catalog, Members.get?_insertAll_reverse, classOf?]

theorem mem_names_catalog :
    name ∈ s.catalog.names ↔ name ∈ Catalog.standard.names ∨ name ∈ Members.keys s.customTypes := by
  rw [Catalog.names, entries_catalog]
  exact Members.mem_keys_insertAll

theorem dot_not_mem_of_isTypeName (h : isTypeName name = true) : '.' ∉ name.toList := by
  intro dot
  have letter := List.all_eq_true.1 (Bool.and_eq_true_iff.1 h).2 '.' dot
  exact absurd letter (by decide)

theorem isTypeName_standard : ∀ name ∈ Catalog.standard.names, isTypeName name = true := by
  decide +kernel

theorem Gives.dot_not_mem (h : s.Gives json) (hname : name ∈ s.catalog.names) :
    '.' ∉ name.toList := by
  refine dot_not_mem_of_isTypeName ?_
  rcases mem_names_catalog.1 hname with standard | further
  · exact isTypeName_standard name standard
  · obtain ⟨t, ht, rfl⟩ := List.mem_map.1 further
    exact h.names t ht

/-- A name of the catalog is a path to the type that was never called and has its class. -/
theorem Gives.resolve?_name (h : s.Gives json) (hname : name ∈ s.catalog.names) :
    ∃ cls, s.classOf? name = some cls ∧ s.catalog.resolve? name = some (.bare name cls) := by
  obtain ⟨cls, hcls⟩ := Members.exists_get?_of_mem_keys hname
  refine ⟨cls, get?_catalog s name ▸ hcls, ?_⟩
  exact Catalog.resolve?_of_entry hcls (h.dot_not_mem hname)

end Settings

/-- **Paths and texts of types.** A type that a path names has the path as its text and was never
called, so different paths name types with different texts. In the catalog of settings that make
sense, which has the standard names and the further ones, every name is a path to the type with this
name, no modifiers, and the class that the name was given last. -/
theorem paths_are_texts :
    (∀ (c : Catalog) (path : String) (t : StorageType), c.resolve? path = some t →
      t.text = path ∧ t.args = []) ∧
    (∀ (c c' : Catalog) (path path' : String) (t t' : StorageType), c.resolve? path = some t →
      c'.resolve? path' = some t' → path ≠ path' → t.text ≠ t'.text) ∧
    ∀ (s : Settings) (json : StorageType), s.check = .ok json →
      ∀ name, (name ∈ s.catalog.names ↔
          name ∈ Catalog.standard.names ∨ name ∈ Members.keys s.customTypes) ∧
        (name ∈ s.catalog.names → ∃ cls, s.classOf? name = some cls ∧
          s.catalog.resolve? name = some (.bare name cls)) := by
  refine ⟨fun c path t h => ⟨Catalog.text_of_resolve? h, Catalog.args_of_resolve? h⟩,
    fun c c' path path' t t' h h' different same => ?_, fun s json h name => ?_⟩
  · rw [Catalog.text_of_resolve? h, Catalog.text_of_resolve? h'] at same
    exact different same
  · have gives := Settings.check_eq_ok.1 h
    exact ⟨Settings.mem_names_catalog, gives.resolve?_name⟩

/-- Settings that name a further type and give a standard one another class. -/
def Settings.documents : Settings where
  customTypes := [("LTREE", .string), ("TEXT", .json)]
  jsonType := some "TEXT"

theorem further_names_are_texts :
    (∃ t u, Catalog.standard.resolve? "INTEGER.UNSIGNED.ZEROFILL" = some t ∧
      Catalog.standard.resolve? "INTEGER.ZEROFILL.UNSIGNED" = some u ∧
      t.text = "INTEGER.UNSIGNED.ZEROFILL" ∧ t.text ≠ u.text) ∧
    Settings.documents.check = .ok (.bare "TEXT" .json) ∧
    Settings.documents.catalog.resolve? "LTREE" = some (.bare "LTREE" .string) ∧
    Settings.documents.catalog.resolve? "TEXT" = some (.bare "TEXT" .json) := by
  obtain ⟨texts, distinct, names⟩ := paths_are_texts
  have first : Catalog.standard.resolve? "INTEGER.UNSIGNED.ZEROFILL" =
      some ⟨"INTEGER", .integer, [], [.unsigned, .zerofill]⟩ := rfl
  have second : Catalog.standard.resolve? "INTEGER.ZEROFILL.UNSIGNED" =
      some ⟨"INTEGER", .integer, [], [.zerofill, .unsigned]⟩ := rfl
  have check : Settings.documents.check = .ok (.bare "TEXT" .json) := rfl
  have named {name : String} {cls : TypeClass} (given : Settings.documents.classOf? name = some cls)
      (known : name ∈ Settings.documents.catalog.names) :
      Settings.documents.catalog.resolve? name = some (.bare name cls) := by
    obtain ⟨_, same, path⟩ := (names _ _ check name).2 known
    cases given.symm.trans same
    exact path
  exact ⟨⟨_, _, first, second, (texts _ _ _ first).1,
      distinct _ _ _ _ _ _ first second (by decide)⟩, check,
    named rfl (by decide +kernel), named rfl (by decide +kernel)⟩

end EntitySchema
