import EntitySchema.Registry
import EntitySchema.Proofs.Outcome
import EntitySchema.Proofs.Text.Utf8
import Mathlib.Data.List.Sort

/-!
# Registries only grow

All that ever happens to a registry is that an entity with a new title is put at its end
(`Grows.add`). So whatever was called, titles are distinct and what is there stays where it is
(`Grows`). A call that reads several files is half done when one of them fails: the
files before it were added, and nothing else was (`loadFiles_cases`).

Files of a directory are read in the order of the bytes of their names. A sorted list is known by
its items, so it does not matter in which order the directory lists them (`entityNames_perm`).
-/

namespace EntitySchema

namespace Registry

variable {r r' : Registry} {title : String} {e : Entity}

/-! ## Titles -/

theorem has_iff : r.has title = true ↔ title ∈ r.titles := by
  rw [has, get?, List.find?_isSome, titles, List.mem_map]
  simp only [decide_eq_true_eq]

/-- Where titles are distinct, an entity is what its title finds. -/
theorem get?_eq_some (h : r.titles.Nodup) :
    r.get? title = some e ↔ e ∈ r.entities ∧ e.title = title := by
  obtain ⟨dir, shared, entities⟩ := r
  rw [get?]
  rw [titles] at h
  dsimp only at h ⊢
  induction entities with
  | nil => simp
  | cons x xs ih =>
    obtain ⟨hx, hxs⟩ := List.nodup_cons.1 h
    rw [List.find?_cons, List.mem_cons]
    by_cases found : x.title = title
    · have unique : e ∈ xs → e.title ≠ title := fun he same =>
        hx (List.mem_map.2 ⟨e, he, same.trans found.symm⟩)
      rw [decide_eq_true found]
      constructor
      · rintro ⟨⟩
        exact ⟨.inl rfl, found⟩
      · rintro ⟨rfl | he, same⟩
        · rfl
        · exact absurd same (unique he)
    · rw [decide_eq_false found, ih hxs]
      exact and_congr_left fun same =>
        ⟨.inr, fun he => he.resolve_left fun eq => found (eq ▸ same)⟩

/-! ## Growth -/

/-- A registry with more entities at its end. -/
def addAll (r : Registry) (es : List Entity) : Registry :=
  { r with entities := r.entities ++ es }

theorem addAll_nil (r : Registry) : r.addAll [] = r := by
  rw [addAll, List.append_nil]

theorem addAll_cons (r : Registry) (e : Entity) (es : List Entity) :
    (r.addAll [e]).addAll es = r.addAll (e :: es) := by
  rw [addAll, addAll, List.append_assoc]
  rfl

/-- What is there stays where it is, and titles stay distinct. -/
structure Grows (r r' : Registry) : Prop where
  dir : r'.dir = r.dir
  shared : r'.shared = r.shared
  entities : r.entities <+: r'.entities
  titles : r.titles.Nodup → r'.titles.Nodup

namespace Grows

theorem refl (r : Registry) : r.Grows r := ⟨rfl, rfl, List.prefix_rfl, id⟩

theorem trans {r'' : Registry} (h : r.Grows r') (h' : r'.Grows r'') : r.Grows r'' where
  dir := h'.dir.trans h.dir
  shared := h'.shared.trans h.shared
  entities := h.entities.trans h'.entities
  titles := h'.titles ∘ h.titles

theorem add (h : e.title ∉ r.titles) : r.Grows (r.addAll [e]) where
  dir := rfl
  shared := rfl
  entities := List.prefix_append ..
  titles distinct := by
    rw [Registry.titles, addAll, List.map_append]
    exact distinct.append (List.nodup_singleton _) (by simpa using h)

theorem get? (h : r.Grows r') (found : r.get? title = some e) : r'.get? title = some e := by
  obtain ⟨more, entities⟩ := h.entities
  rw [Registry.get?] at found
  rw [Registry.get?, ← entities, List.find?_append, found, Option.some_or]

end Grows

/-! ## Operations -/

theorem register_cases (r : Registry) (e : Entity) :
    (e.title ∉ r.titles ∧ r.register e = .ok (r.addAll [e])) ∨
    (e.title ∈ r.titles ∧ r.register e = fail (.duplicate e.title)) := by
  rw [register]
  by_cases h : r.has e.title = true
  · exact .inr ⟨has_iff.1 h, if_pos h⟩
  · exact .inl ⟨mt has_iff.2 h, if_neg h⟩

/-- A file that cannot be read is at fault. -/
theorem readEntity_cases (files : Files) (shared : SharedSchemas) (path : String) :
    (∃ e, readEntity files shared path = .ok e) ∨
    ∃ reason, readEntity files shared path = fail (.malformedFile path reason) := by
  unfold readEntity
  split
  · exact .inr ⟨_, rfl⟩
  · split
    · exact .inr ⟨_, rfl⟩
    · exact .inl ⟨_, rfl⟩

theorem loadFile_of_ok {files : Files} {path : String}
    (h : readEntity files r.shared path = .ok e) : r.loadFile files path = r.register e := by
  rw [loadFile, h]
  rfl

theorem loadFile_of_error {files : Files} {path : String} {problem : SchemaError}
    (h : readEntity files r.shared path = .error problem) :
    r.loadFile files path = .error problem := by
  rw [loadFile, h]
  rfl

/-- **A file fails** to be added: it cannot be read, or its title is taken. -/
def Fails (r : Registry) (files : Files) (path : String) (problem : SchemaError) : Prop :=
  (∃ reason, readEntity files r.shared path = .error problem ∧
    problem = .of (.malformedFile path reason)) ∨
  ∃ e, readEntity files r.shared path = .ok e ∧ e.title ∈ r.titles ∧
    problem = .of (.duplicate e.title)

theorem loadFile_cases (r : Registry) (files : Files) (path : String) :
    (∃ e, readEntity files r.shared path = .ok e ∧ e.title ∉ r.titles ∧
      r.loadFile files path = .ok (r.addAll [e])) ∨
    ∃ problem, r.Fails files path problem ∧ r.loadFile files path = .error problem := by
  obtain ⟨e, he⟩ | ⟨reason, hr⟩ := readEntity_cases files r.shared path
  · rw [loadFile_of_ok he]
    obtain ⟨new, h⟩ | ⟨taken, h⟩ := r.register_cases e
    · exact .inl ⟨e, he, new, h⟩
    · exact .inr ⟨_, .inr ⟨e, he, taken, rfl⟩, h⟩
  · exact .inr ⟨_, .inl ⟨reason, hr, rfl⟩, loadFile_of_error hr⟩

/-- **Files in order.** Those before the first that fails are added, and nothing else is. -/
theorem loadFiles_cases (r : Registry) (files : Files) (paths : List String) :
    ∃ (good rest : List String) (es : List Entity), paths = good ++ rest ∧
      List.Forall₂ (fun path e => readEntity files r.shared path = .ok e) good es ∧
      (r.loadFiles files paths).2 = r.addAll es ∧ r.Grows (r.addAll es) ∧
      ((rest = [] ∧ (r.loadFiles files paths).1 = .ok ()) ∨
        ∃ bad more problem, rest = bad :: more ∧ (r.addAll es).Fails files bad problem ∧
          (r.loadFiles files paths).1 = .error problem) := by
  induction paths generalizing r with
  | nil =>
    refine ⟨[], [], [], rfl, .nil, ?_⟩
    rw [addAll_nil]
    exact ⟨rfl, .refl r, .inl ⟨rfl, rfl⟩⟩
  | cons path paths ih =>
    rw [loadFiles]
    obtain ⟨e, read, new, added⟩ | ⟨problem, fails, failed⟩ := r.loadFile_cases files path
    · rw [added]
      obtain ⟨good, rest, es, rfl, reads, after, grows, stop⟩ := ih (r.addAll [e])
      rw [addAll_cons] at after grows stop
      exact ⟨path :: good, rest, e :: es, rfl, .cons read reads, after, (Grows.add new).trans grows,
        stop⟩
    · rw [failed]
      refine ⟨[], path :: paths, [], rfl, .nil, ?_⟩
      rw [addAll_nil]
      exact ⟨rfl, .refl r, .inr ⟨path, paths, problem, rfl, fails, rfl⟩⟩

/-! ## Names of files -/

/-- The first name is not after the second one, compared by their bytes. -/
def ByteLE (a b : String) : Prop := ¬ b.toUTF8.toList < a.toUTF8.toList

theorem byteLE_iff {a b : String} : ByteLE a b ↔ a ≤ b := by
  rw [ByteLE, Text.toUTF8_lt_iff, not_lt]

theorem pairwise_entityNames (names : List String) : (entityNames names).Pairwise ByteLE :=
  (List.pairwise_mergeSort' (· ≤ ·) _).imp byteLE_iff.2

theorem perm_entityNames (names : List String) :
    (entityNames names).Perm (names.filter Files.isJsonName) := List.mergeSort_perm ..

/-- A sorted list is known by its items. -/
theorem entityNames_eq {names sorted : List String} (h : sorted.Pairwise ByteLE)
    (same : (names.filter Files.isJsonName).Perm sorted) : entityNames names = sorted :=
  ((perm_entityNames names).trans same).eq_of_pairwise
    (fun _ _ _ _ hab hba => le_antisymm (byteLE_iff.1 hab) (byteLE_iff.1 hba))
    (pairwise_entityNames names) h

theorem entityNames_perm {names names' : List String} (h : names.Perm names') :
    entityNames names = entityNames names' :=
  entityNames_eq (pairwise_entityNames names') ((h.filter _).trans (perm_entityNames names').symm)

/-- Only the texts of the files matter. -/
theorem loadFiles_congr {files files' : Files} (h : files'.read = files.read) (r : Registry)
    (paths : List String) : r.loadFiles files' paths = r.loadFiles files paths := by
  have same (r : Registry) (path : String) : r.loadFile files' path = r.loadFile files path := by
    rw [loadFile, loadFile, readEntity, readEntity, h]
  induction paths generalizing r with
  | nil => rfl
  | cons path paths ih =>
    rw [loadFiles, loadFiles, same]
    cases r.loadFile files path with
    | ok r' => exact ih r'
    | error problem => rfl

theorem loadAll_of_absent {files : Files} (h : files.present r.dir = false) :
    r.loadAll files = (.ok (), r) := by
  rw [loadAll, h]
  rfl

theorem loadAll_of_fault {files : Files} {fault : ListingFault} (hp : files.present r.dir = true)
    (hl : files.list r.dir = .error fault) :
    ∃ reason, r.loadAll files = (fail (.malformedFile r.dir reason), r) := by
  rw [loadAll, hp, hl]
  exact ⟨_, rfl⟩

theorem loadAll_of_list {files : Files} {names : List String} (hp : files.present r.dir = true)
    (hl : files.list r.dir = .ok names) :
    r.loadAll files = r.loadFiles files ((entityNames names).map (Files.join r.dir)) := by
  rw [loadAll, hp, hl]
  rfl

/-- **A directory.** The files before the first that fails are added, in order of their names. -/
theorem loadAll_cases {files : Files} {names : List String} (hp : files.present r.dir = true)
    (hl : files.list r.dir = .ok names) :
    ∃ (good rest : List String) (es : List Entity), entityNames names = good ++ rest ∧
      List.Forall₂ (fun name e => readEntity files r.shared (Files.join r.dir name) = .ok e)
        good es ∧
      (r.loadAll files).2 = r.addAll es ∧
      ((rest = [] ∧ (r.loadAll files).1 = .ok ()) ∨
        ∃ bad more problem, rest = bad :: more ∧
          (r.addAll es).Fails files (Files.join r.dir bad) problem ∧
          (r.loadAll files).1 = .error problem) := by
  rw [loadAll_of_list hp hl]
  obtain ⟨good, rest, es, paths, reads, after, -, stop⟩ :=
    r.loadFiles_cases files ((entityNames names).map (Files.join r.dir))
  obtain ⟨first, last, split, rfl, rfl⟩ := List.map_eq_append_iff.1 paths
  refine ⟨first, last, es, split, List.forall₂_map_left_iff.1 reads, after, ?_⟩
  obtain ⟨none, done⟩ | ⟨bad, more, problem, next, fails, failed⟩ := stop
  · exact .inl ⟨List.map_eq_nil_iff.1 none, done⟩
  · obtain ⟨name, others, rfl, rfl, -⟩ := List.map_eq_cons_iff.1 next
    exact .inr ⟨name, others, problem, rfl, fails, failed⟩

/-- The order in which a directory is listed is of no account. -/
theorem loadAll_perm {files files' : Files} {names names' : List String}
    (hp : files'.present = files.present) (hr : files'.read = files.read)
    (hl : files.list r.dir = .ok names) (hl' : files'.list r.dir = .ok names')
    (h : names.Perm names') : r.loadAll files' = r.loadAll files := by
  cases there : files.present r.dir with
  | false => rw [loadAll_of_absent there, loadAll_of_absent (hp ▸ there)]
  | true =>
    rw [loadAll_of_list there hl, loadAll_of_list (hp ▸ there) hl', loadFiles_congr hr,
      entityNames_perm h]

/-! ## Runs -/

/-- What can be called, each time with the files as they are by then. -/
inductive Act where
  | register (e : Entity)
  | loadFile (files : Files) (path : String)
  | loadAll (files : Files)

/-- Takes the outcome of an operation that changes nothing when it fails. -/
def keep (r : Registry) : SchemaResult Registry → SchemaResult Unit × Registry
  | .ok r' => (.ok (), r')
  | .error problem => (.error problem, r)

/-- The outcome of a call, and the registry afterwards. -/
def act (r : Registry) : Act → SchemaResult Unit × Registry
  | .register e => r.keep (r.register e)
  | .loadFile files path => r.keep (r.loadFile files path)
  | .loadAll files => r.loadAll files

/-- The registry after some calls, successful or not. -/
def run (r : Registry) (acts : List Act) : Registry := acts.foldl (fun r a => (r.act a).2) r

theorem act_register (r : Registry) (e : Entity) :
    (e.title ∉ r.titles ∧ r.act (.register e) = (.ok (), r.addAll [e])) ∨
    (e.title ∈ r.titles ∧ r.act (.register e) = (fail (.duplicate e.title), r)) := by
  obtain ⟨new, added⟩ | ⟨taken, failed⟩ := r.register_cases e
  · exact .inl ⟨new, congrArg r.keep added⟩
  · exact .inr ⟨taken, congrArg r.keep failed⟩

theorem act_loadFile (r : Registry) (files : Files) (path : String) :
    (∃ e, readEntity files r.shared path = .ok e ∧
      r.act (.loadFile files path) = r.act (.register e)) ∨
    ∃ reason, readEntity files r.shared path = fail (.malformedFile path reason) ∧
      r.act (.loadFile files path) = (fail (.malformedFile path reason), r) := by
  obtain ⟨e, he⟩ | ⟨reason, hr⟩ := readEntity_cases files r.shared path
  · exact .inl ⟨e, he, congrArg r.keep (loadFile_of_ok he)⟩
  · exact .inr ⟨reason, hr, congrArg r.keep (loadFile_of_error hr)⟩

theorem grows_register (r : Registry) (e : Entity) : r.Grows (r.act (.register e)).2 := by
  obtain ⟨new, h⟩ | ⟨-, h⟩ := r.act_register e
  · exact h ▸ .add new
  · exact h ▸ .refl r

/-- **One call** lets a registry grow. -/
theorem grows_act (r : Registry) (a : Act) : r.Grows (r.act a).2 := by
  cases a with
  | register e => exact grows_register r e
  | loadFile files path =>
    obtain ⟨e, -, h⟩ | ⟨reason, -, h⟩ := r.act_loadFile files path
    · exact h ▸ grows_register r e
    · exact h ▸ .refl r
  | loadAll files =>
    show r.Grows (r.loadAll files).2
    unfold loadAll
    split
    · exact .refl r
    · split
      · exact .refl r
      · obtain ⟨-, -, es, -, -, after, grows, -⟩ := r.loadFiles_cases files _
        exact after ▸ grows

/-- **A run** lets a registry grow. -/
theorem grows_run (r : Registry) (acts : List Act) : r.Grows (r.run acts) := by
  induction acts generalizing r with
  | nil => exact .refl r
  | cons a acts ih => exact (grows_act r a).trans (ih _)

end Registry

/-- **A registry only grows.** After any calls, successful or not, titles are distinct and an entity
is what its title finds; whatever is called next, the entities stay where they are. Registering an
entity adds it, or fails and changes nothing because its title is taken; reading a file is the same
for the entity in it, if there is one. Reading the directory adds nothing if it is not there or
cannot be listed. Else it goes through the entity files in the order of the bytes of their names and
adds the entities before the first file that fails; the order in which they are listed is of no
account. -/
theorem registry_only_grows {dir : String} {shared : SharedSchemas} {acts : List Registry.Act}
    {r : Registry} (h : (Registry.ofDir dir shared).run acts = r) :
    (r.titles.Nodup ∧ ∀ title e, r.get? title = some e ↔ e ∈ r.entities ∧ e.title = title) ∧
    (∀ more, r.entities <+: (r.run more).entities ∧
      ∀ title e, r.get? title = some e → (r.run more).get? title = some e) ∧
    (∀ e, (e.title ∉ r.titles ∧ r.act (.register e) = (.ok (), r.addAll [e])) ∨
      (e.title ∈ r.titles ∧ r.act (.register e) = (fail (.duplicate e.title), r))) ∧
    (∀ files path,
      (∃ e, readEntity files shared path = .ok e ∧
        r.act (.loadFile files path) = r.act (.register e)) ∨
      ∃ reason, readEntity files shared path = fail (.malformedFile path reason) ∧
        r.act (.loadFile files path) = (fail (.malformedFile path reason), r)) ∧
    (∀ files, files.present dir = false → r.act (.loadAll files) = (.ok (), r)) ∧
    (∀ files fault, files.present dir = true → files.list dir = .error fault →
      ∃ reason, r.act (.loadAll files) = (fail (.malformedFile dir reason), r)) ∧
    (∀ files names, files.present dir = true → files.list dir = .ok names →
      (Registry.entityNames names).Perm (names.filter Files.isJsonName) ∧
      (Registry.entityNames names).Pairwise Registry.ByteLE ∧
      ∃ (good rest : List String) (es : List Entity), Registry.entityNames names = good ++ rest ∧
        List.Forall₂ (fun name e => readEntity files shared (Files.join dir name) = .ok e) good es ∧
        (r.act (.loadAll files)).2 = r.addAll es ∧
        ((rest = [] ∧ (r.act (.loadAll files)).1 = .ok ()) ∨
          ∃ bad more problem, rest = bad :: more ∧
            (r.addAll es).Fails files (Files.join dir bad) problem ∧
            (r.act (.loadAll files)).1 = .error problem)) ∧
    ∀ (files files' : Files) (names names' : List String), files'.present = files.present →
      files'.read = files.read → files.list dir = .ok names → files'.list dir = .ok names' →
      names.Perm names' → r.act (.loadAll files') = r.act (.loadAll files) := by
  have grown := (Registry.ofDir dir shared).grows_run acts
  rw [h] at grown
  obtain rfl : r.dir = dir := grown.dir
  obtain rfl : r.shared = shared := grown.shared
  have distinct : r.titles.Nodup := grown.titles List.nodup_nil
  refine ⟨⟨distinct, fun _ _ => Registry.get?_eq_some distinct⟩, fun more => ?_, r.act_register,
    r.act_loadFile, fun _ => Registry.loadAll_of_absent, fun _ _ => Registry.loadAll_of_fault,
    fun files names there listed => ?_, fun _ _ _ _ => Registry.loadAll_perm⟩
  · have grows := r.grows_run more
    exact ⟨grows.entities, fun _ _ => grows.get?⟩
  · exact ⟨Registry.perm_entityNames names, Registry.pairwise_entityNames names,
      Registry.loadAll_cases there listed⟩

/-- A directory with an entity in each of two files, and a file that is none. -/
def twoEntities : Snapshot where
  texts := [
    ("d/a.json", .ok "\x7b\"title\":\"A\"\x7d"),
    ("d/b.json", .ok "\x7b\"title\":\"B\"\x7d")]
  dirs := [("d", .ok ["b.json", "notes", "a.json"])]

theorem taken_title_stops_directory : ∃ r : Registry,
    (Registry.ofDir "d" []).run [.register (.ofTitle "B")] = r ∧ r.titles.Nodup ∧
    (r.run [.loadAll twoEntities.files]).titles = ["B", "A"] ∧
    r.entities <+: (r.run [.loadAll twoEntities.files]).entities ∧
    (r.act (.loadAll twoEntities.files)).1 = fail (.duplicate "B") := by
  obtain ⟨⟨distinct, -⟩, grows, -⟩ := registry_only_grows
    (show (Registry.ofDir "d" []).run [.register (.ofTitle "B")] = _ from rfl)
  have files : ((Registry.ofDir "d" []).run [.register (.ofTitle "B")]).act
      (.loadAll twoEntities.files) = _ := Registry.loadAll_of_list (by decide) rfl
  have names : Registry.entityNames ["b.json", "notes", "a.json"] = ["a.json", "b.json"] :=
    Registry.entityNames_eq (by simpa using Registry.byteLE_iff.2 (by decide)) (by decide +kernel)
  rw [names] at files
  refine ⟨_, rfl, distinct, ?_, (grows _).1, ?_⟩
  · show (Registry.act _ _).2.titles = _
    rw [files]
    decide +kernel
  · rw [files]
    decide +kernel

end EntitySchema
