import EntitySchema.Command.Run
import EntitySchema.Proofs.Entity.Compilation
import EntitySchema.Proofs.Registry

/-!
# Batches of entity files

Files that are given by name are compiled together, all of them or none
(`batch_is_all_or_nothing`). Three things may go wrong, and each only after the ones before it went
well: a file does not load, the settings make no sense, an entity does not compile. The first file
or entity that fails gives the error (`BatchFault`).

Two loops are behind this. The files are loaded into a registry one after the other, where loading
goes on as if it had begun with what was loaded before (`Registry.loadFiles_append`); the entities
are compiled by a map, which succeeds on all items or fails on the first that fails
(`mapM_eq_ok_iff`, `mapM_eq_error_iff`).
-/

namespace EntitySchema

variable {files : Files} {s : Settings} {path : String} {paths : List String} {es : List Entity}
  {error : CommandError} {problem : SchemaError}

/-! ## Files -/

/-- A file holds an entity: it can be read, its text is Json in which every shared schema that is
named is known, and with these in place it reads as the entity. -/
def HoldsEntity (files : Files) (shared : SharedSchemas) (path : String) (e : Entity) : Prop :=
  ∃ text v w, files.read path = .ok text ∧ Json.parse text = .ok v ∧
    expandShared shared v = (none, w) ∧ Entity.decode w = .ok e

theorem parseEntity_eq_ok {shared : SharedSchemas} {text : String} {e : Entity} :
    parseEntity shared text = .ok e ↔ ∃ v w, Json.parse text = .ok v ∧
      expandShared shared v = (none, w) ∧ Entity.decode w = .ok e := by
  simp only [parseEntity, bind_eq_ok, mapError_eq_ok]
  refine exists_congr fun v => ?_
  obtain ⟨failure, w⟩ := expandShared shared v
  cases failure with
  | none => simp [mapError_eq_ok]
  | some unknown => simp

theorem readEntity_eq_ok {shared : SharedSchemas} {e : Entity} :
    readEntity files shared path = .ok e ↔ HoldsEntity files shared path e := by
  have holds : HoldsEntity files shared path e ↔
      ∃ text, files.read path = .ok text ∧ parseEntity shared text = .ok e := by
    simp only [HoldsEntity, parseEntity_eq_ok, exists_and_left]
  rw [holds, readEntity]
  cases files.read path with
  | error fault => simp [fail]
  | ok text =>
    simp only [Except.ok.injEq, exists_eq_left']
    cases parseEntity shared text <;> simp [fail, pure, Except.pure]

namespace Registry

variable {r : Registry}

theorem titles_addAll (r : Registry) (es : List Entity) :
    (r.addAll es).titles = r.titles ++ es.map Entity.title := List.map_append

/-- Files that load leave the registry with their entities, and loading goes on from there. -/
theorem loadFiles_append {good : List String}
    (holds : List.Forall₂ (HoldsEntity files r.shared) good es)
    (distinct : (r.addAll es).titles.Nodup) (rest : List String) :
    r.loadFiles files (good ++ rest) = (r.addAll es).loadFiles files rest := by
  induction good generalizing r es with
  | nil =>
    cases holds
    rw [addAll_nil, List.nil_append]
  | cons path good ih =>
    obtain ⟨e, es, here, others, rfl⟩ := List.forall₂_cons_left_iff.1 holds
    rw [← addAll_cons] at distinct ⊢
    have new : e.title ∉ r.titles := by
      rw [addAll_cons, titles_addAll, List.map_cons] at distinct
      exact fun taken => List.disjoint_of_nodup_append distinct taken List.mem_cons_self
    have added : r.loadFile files path = .ok (r.addAll [e]) := by
      rw [loadFile_of_ok (readEntity_eq_ok.2 here)]
      exact (r.register_cases e).elim And.right fun taken => absurd taken.1 new
    rw [List.cons_append, loadFiles, added]
    exact ih others distinct

theorem loadFile_of_fails (h : r.Fails files path problem) :
    r.loadFile files path = .error problem := by
  rcases h with ⟨reason, read, -⟩ | ⟨e, read, taken, rfl⟩
  · exact loadFile_of_error read
  · rw [loadFile_of_ok read]
    exact (r.register_cases e).elim (fun new => absurd taken new.1) And.right

end Registry

/-! ## Loading -/

/-- The registry of a batch that has loaded some entities. -/
def Settings.batch (s : Settings) (es : List Entity) : Registry :=
  (Registry.ofDir "." s.shared).addAll es

/-- Files load as some entities: each holds its entity, and the titles are distinct. -/
structure Loads (files : Files) (s : Settings) (paths : List String) (es : List Entity) : Prop where
  holds : List.Forall₂ (HoldsEntity files s.shared) paths es
  distinct : (es.map Entity.title).Nodup

theorem Loads.loadFiles (h : Loads files s paths es) (rest : List String) :
    (Registry.ofDir "." s.shared).loadFiles files (paths ++ rest) =
      (s.batch es).loadFiles files rest :=
  Registry.loadFiles_append (r := .ofDir "." s.shared) h.holds h.distinct rest

/-- Files are loaded until the first that fails. -/
theorem loads_cases (files : Files) (s : Settings) (paths : List String) :
    (∃ es, Loads files s paths es) ∨ ∃ good bad more es problem, paths = good ++ bad :: more ∧
      Loads files s good es ∧ (s.batch es).Fails files bad problem := by
  obtain ⟨good, rest, es, rfl, reads, -, grows, stop⟩ :=
    (Registry.ofDir "." s.shared).loadFiles_cases files paths
  have loads : Loads files s good es :=
    ⟨reads.imp fun _ _ => readEntity_eq_ok.1, grows.titles List.nodup_nil⟩
  rcases stop with ⟨rfl, -⟩ | ⟨bad, more, problem, rfl, fails, -⟩
  · exact .inl ⟨es, (List.append_nil good).symm ▸ loads⟩
  · exact .inr ⟨good, bad, more, es, problem, rfl, loads, fails⟩

theorem gatherEntities_of_paths (hne : paths ≠ []) : gatherEntities files s paths =
    gatherEntities.finish ((Registry.ofDir "." s.shared).loadFiles files paths) := by
  cases paths with
  | nil => exact absurd rfl hne
  | cons path paths => rfl

theorem Loads.gathered (h : Loads files s paths es) (hne : paths ≠ []) :
    gatherEntities files s paths = .ok es := by
  have all := h.loadFiles []
  rw [List.append_nil] at all
  rw [gatherEntities_of_paths hne, all]
  rfl

theorem Loads.not_gathered {good more : List String} {bad : String}
    (h : Loads files s good es) (fails : (s.batch es).Fails files bad problem) :
    gatherEntities files s (good ++ bad :: more) = .error (.schema problem) := by
  rw [gatherEntities_of_paths (by simp), h.loadFiles, Registry.loadFiles,
    Registry.loadFile_of_fails fails]
  rfl

theorem gatherEntities_eq_ok (hne : paths ≠ []) :
    gatherEntities files s paths = .ok es ↔ Loads files s paths es := by
  refine ⟨fun h => ?_, fun h => h.gathered hne⟩
  obtain ⟨es', loads⟩ | ⟨good, bad, more, es', problem, rfl, loads, fails⟩ :=
    loads_cases files s paths
  · cases (loads.gathered hne).symm.trans h
    exact loads
  · cases (loads.not_gathered fails).symm.trans h

theorem gatherEntities_eq_error (hne : paths ≠ []) :
    gatherEntities files s paths = .error error ↔ ∃ good bad more es problem,
      paths = good ++ bad :: more ∧ Loads files s good es ∧
      (s.batch es).Fails files bad problem ∧ error = .schema problem := by
  constructor
  · intro h
    obtain ⟨es, loads⟩ | ⟨good, bad, more, es, problem, rfl, loads, fails⟩ :=
      loads_cases files s paths
    · cases (loads.gathered hne).symm.trans h
    · cases (loads.not_gathered fails).symm.trans h
      exact ⟨good, bad, more, es, problem, rfl, loads, fails, rfl⟩
  · rintro ⟨good, bad, more, es, problem, rfl, loads, fails, rfl⟩
    exact loads.not_gathered fails

/-! ## Compiling -/

/-- Why a batch fails. -/
inductive BatchFault (files : Files) (s : Settings) (paths : List String) : CommandError → Prop where
  /-- A file fails, and all files before it load. -/
  | file {good more : List String} {bad : String} {es : List Entity} {problem : SchemaError} :
    paths = good ++ bad :: more → Loads files s good es →
    (s.batch es).Fails files bad problem →
    BatchFault files s paths (.schema problem)
  /-- All files load, and the settings make no sense. -/
  | settings {es : List Entity} {problem : SettingsProblem} :
    Loads files s paths es → Compiler.ofSettings s = .error problem →
    BatchFault files s paths (.settings (.invalid problem))
  /-- All files load and the settings make sense; an entity does not compile, and all entities
  before it do. -/
  | entity {c : Compiler} {good more : List Entity} {bad : Entity} {as : List Artifact}
      {problem : SchemaError} :
    Loads files s paths (good ++ bad :: more) → Compiler.ofSettings s = .ok c →
    List.Forall₂ (fun e a => c.compile e = .ok a) good as → c.compile bad = .error problem →
    BatchFault files s paths (.schema problem)

theorem compilerOf_eq_ok {c : Compiler} : compilerOf s = .ok c ↔ Compiler.ofSettings s = .ok c :=
  mapError_eq_ok

theorem compilerOf_eq_error : compilerOf s = .error error ↔
    ∃ problem, Compiler.ofSettings s = .error problem ∧ .settings (.invalid problem) = error :=
  mapError_eq_error

theorem compileEntities_eq_ok (hne : paths ≠ []) {as : List Artifact} :
    compileEntities files s paths = .ok as ↔ ∃ es c, Loads files s paths es ∧
      Compiler.ofSettings s = .ok c ∧ List.Forall₂ (fun e a => c.compile e = .ok a) es as := by
  simp only [compileEntities, bind_eq_ok, gatherEntities_eq_ok hne, compilerOf_eq_ok,
    mapError_eq_ok, Compiler.compileAll, mapM_eq_ok_iff, exists_and_left]

theorem compileEntities_eq_error (hne : paths ≠ []) :
    compileEntities files s paths = .error error ↔ BatchFault files s paths error := by
  simp only [compileEntities, bind_eq_error, gatherEntities_eq_ok hne, gatherEntities_eq_error hne,
    compilerOf_eq_ok, compilerOf_eq_error, mapError_eq_error, Compiler.compileAll,
    mapM_eq_error_iff]
  constructor
  · rintro (⟨good, bad, more, es, problem, rfl, loads, fails, rfl⟩ | ⟨es, loads, h⟩)
    · exact .file rfl loads fails
    · rcases h with ⟨problem, settings, rfl⟩ | ⟨c, settings, problem, h, rfl⟩
      · exact .settings loads settings
      · obtain ⟨good, bad, more, as, rfl, compiled, failed⟩ := h
        exact .entity loads settings compiled failed
  · rintro (⟨rfl, loads, fails⟩ | ⟨loads, settings⟩ | ⟨loads, settings, compiled, failed⟩)
    · exact .inl ⟨_, _, _, _, _, rfl, loads, fails, rfl⟩
    · exact .inr ⟨_, loads, .inl ⟨_, settings, rfl⟩⟩
    · exact .inr ⟨_, loads, .inr ⟨_, settings, _, ⟨_, _, _, _, rfl, compiled, failed⟩, rfl⟩⟩

theorem names_of_compiled {c : Compiler} {as : List Artifact}
    (h : List.Forall₂ (fun e a => c.compile e = .ok a) es as) :
    as.map Artifact.name = es.map Entity.title := by
  induction h with
  | nil => rfl
  | cons head _ ih =>
    obtain ⟨-, -, -, -, rfl⟩ := Compiler.compile_eq_ok.1 head
    exact congrArg (_ :: ·) ih

/-- The artifacts are compiled from what the files hold, file by file. -/
theorem compiled_of_holds {c : Compiler} {shared : SharedSchemas} {as : List Artifact}
    (holds : List.Forall₂ (HoldsEntity files shared) paths es)
    (compiled : List.Forall₂ (fun e a => c.compile e = .ok a) es as) :
    List.Forall₂ (fun path a => ∃ e, HoldsEntity files shared path e ∧ c.compile e = .ok a)
      paths as := by
  induction holds generalizing as with
  | nil =>
    cases compiled
    exact .nil
  | cons here _ ih =>
    obtain ⟨a, as, compiles, others, rfl⟩ := List.forall₂_cons_left_iff.1 compiled
    exact .cons ⟨_, here, compiles⟩ (ih others)

/-- **Batches.** Some entity files are compiled exactly when all of them load with distinct titles,
the settings make sense and all the entities compile. The result then has one artifact for each
file, in their order, compiled from the entity that the file holds, and the names are distinct.
Otherwise the error is that of the first file that fails, if there is one, else that of the
settings, if they make no sense, else that of the first entity that does not compile. -/
theorem batch_is_all_or_nothing (hne : paths ≠ []) :
    (∀ as, compileEntities files s paths = .ok as ↔ ∃ es c, Loads files s paths es ∧
      Compiler.ofSettings s = .ok c ∧ List.Forall₂ (fun e a => c.compile e = .ok a) es as) ∧
    (∀ as, compileEntities files s paths = .ok as →
      (∃ c, Compiler.ofSettings s = .ok c ∧ List.Forall₂ (fun path a =>
        ∃ e, HoldsEntity files s.shared path e ∧ c.compile e = .ok a) paths as) ∧
      (as.map Artifact.name).Nodup) ∧
    ∀ error, compileEntities files s paths = .error error ↔ BatchFault files s paths error := by
  refine ⟨fun as => compileEntities_eq_ok hne, fun as h => ?_,
    fun error => compileEntities_eq_error hne⟩
  obtain ⟨es, c, loads, settings, compiled⟩ := (compileEntities_eq_ok hne).1 h
  exact ⟨⟨c, settings, compiled_of_holds loads.holds compiled⟩,
    names_of_compiled compiled ▸ loads.distinct⟩

theorem batch_of_two_files : ["d/b.json", "d/a.json"] ≠ [] ∧
    (∃ as, compileEntities twoEntities.files {} ["d/b.json", "d/a.json"] = .ok as ∧
      as.map Artifact.name = ["B", "A"] ∧ (as.map Artifact.name).Nodup) ∧
    ["d/a.json", "d/a.json", "absent"] ≠ [] ∧
    BatchFault twoEntities.files {} ["d/a.json", "d/a.json", "absent"]
      (.schema (.of (.duplicate "A"))) := by
  have compiles : (compileEntities twoEntities.files {} ["d/b.json", "d/a.json"]).map
      (List.map Artifact.name) = .ok ["B", "A"] := by decide +kernel
  have fails : (compileEntities twoEntities.files {} ["d/a.json", "d/a.json", "absent"]).map
      (List.map Artifact.name) = .error (.schema (.of (.duplicate "A"))) := by decide +kernel
  obtain ⟨as, compiled, names⟩ := map_eq_ok.1 compiles
  exact ⟨by simp, ⟨as, compiled, names, ((batch_is_all_or_nothing (by simp)).2.1 as compiled).2⟩,
    by simp, ((batch_is_all_or_nothing (by simp)).2.2 _).1 (map_eq_error.1 fails)⟩

end EntitySchema
