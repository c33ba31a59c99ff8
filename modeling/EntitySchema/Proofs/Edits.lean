import EntitySchema.Document
import EntitySchema.Proofs.Json.Members
import Mathlib.Data.List.Basic

/-!
# Runs of edits

A document is clean if its `required` lists distinct names, each of a property it has. Edits look
after both sections apart: adding properties only makes more names available, taking properties out
takes their names out first, and requiring a name that is listed already changes nothing. So one
edit of a clean document gives a clean one (`Edit.clean_apply`), with one exception: narrowing to a
list of names copies the list as it is, repetitions included. A run of edits therefore stays clean
just when no narrowing in it repeats a name (`clean_of_trail_iff`).
-/

namespace EntitySchema.Document

variable {doc doc' : Json} {key k n operation : String} {v : Json} {names given : List String}
  {ms : Members}

/-! ## Reading an edited document -/

theorem get?_eq_members (doc : Json) (k : String) : doc.get? k = Members.get? (members doc) k := by
  cases doc <;> rfl

theorem get?_set : (set doc key v).get? k = if key = k then some v else doc.get? k := by
  rw [get?_eq_members doc]
  exact Members.get?_insert

theorem get?_set_of_ne (h : key ≠ k) : (set doc key v).get? k = doc.get? k := by
  rw [get?_set, if_neg h]

@[simp] theorem isNamed_str : isNamed names (.str n) = names.contains n := rfl

theorem Keyword.key_ne (k : Keyword) : k.key ≠ "required" ∧ k.key ≠ "properties" := by
  cases k <;> decide

/-! ## Clean documents -/

/-- A document lists `names` as required and has the properties `ms`; the names are distinct, and
each of them is the name of a property. -/
structure Lists (doc : Json) (names : List String) (ms : Members) : Prop where
  required : doc.get? "required" = some (Json.ofStrings names)
  properties : doc.get? "properties" = some (.obj ms)
  nodup : names.Nodup
  known : ∀ n ∈ names, n ∈ Members.keys ms

/-- A document lists distinct names of its properties as required. -/
def Clean (doc : Json) : Prop := ∃ names ms, Lists doc names ms

namespace Lists

theorem requiredItems (h : Lists doc names ms) : requiredItems doc = names.map .str := by
  rw [Document.requiredItems, ← get?_eq_members, h.required]
  rfl

theorem propertyMembers (h : Lists doc names ms) : propertyMembers doc = ms := by
  rw [Document.propertyMembers, ← get?_eq_members, h.properties]
  rfl

theorem setKeyword (h : Lists doc names ms) (k : Keyword) (v : Json) :
    Lists (setKeyword doc k v) names ms where
  required := (get?_set_of_ne k.key_ne.1).trans h.required
  properties := (get?_set_of_ne k.key_ne.2).trans h.properties
  nodup := h.nodup
  known := h.known

/-- A new list of required names, all of them known. -/
theorem updateRequired (h : Lists doc names ms) {f : List Json → List Json}
    (hf : f (names.map .str) = given.map .str) (nodup : given.Nodup)
    (known : ∀ n ∈ given, n ∈ Members.keys ms) : Lists (updateRequired doc f) given ms where
  required := by
    rw [Document.updateRequired, h.requiredItems, hf, get?_set, if_pos rfl]
    rfl
  properties := (get?_set_of_ne (by decide)).trans h.properties
  nodup := nodup
  known := known

/-- New properties, with those that are required among them. -/
theorem updateProperties (h : Lists doc names ms) {f : Members → Members}
    (known : ∀ n ∈ names, n ∈ Members.keys (f ms)) :
    Lists (updateProperties doc f) names (f ms) where
  required := (get?_set_of_ne (by decide)).trans h.required
  properties := by
    rw [Document.updateProperties, h.propertyMembers, get?_set, if_pos rfl]
  nodup := h.nodup
  known := known

theorem add (h : Lists doc names ms) (properties : Members) :
    Lists (add doc properties) names (Members.insertAll ms properties) :=
  h.updateProperties fun n hn => Members.mem_keys_insertAll.2 (.inl (h.known n hn))

theorem filter_map_str (names given : List String) :
    ((names.map Json.str).filter fun entry => !isNamed given entry) =
      (names.filter (· ∉ given)).map .str := by
  rw [List.filter_map]
  congr 1
  refine List.filter_congr fun n _ => ?_
  simp

theorem dropRequired (h : Lists doc names ms) (given : List String) :
    Lists (dropRequired doc given) (names.filter (· ∉ given)) ms :=
  h.updateRequired (filter_map_str names given) (h.nodup.filter _) fun n hn =>
    h.known n (List.mem_filter.1 hn).1

end Lists

theorem mem_keys_foldl_erase :
    k ∈ Members.keys (given.foldl Members.erase ms) ↔ k ∈ Members.keys ms ∧ k ∉ given := by
  induction given generalizing ms with
  | nil => simp
  | cons n rest ih =>
    have erased : k ∈ Members.keys (Members.erase ms n) ↔ k ∈ Members.keys ms ∧ k ≠ n := by
      rw [← Members.get?_isSome_iff, ← Members.get?_isSome_iff, Members.get?_erase]
      split
      · next h => simp [h]
      · next h => simp [Ne.symm h]
    rw [List.foldl_cons, ih, erased, List.mem_cons, not_or, and_assoc]

/-- Appends a name, unless it is there. -/
def appendName (names : List String) (n : String) : List String :=
  if n ∈ names then names else names ++ [n]

theorem appendRequired_map_str (names : List String) (n : String) :
    appendRequired (names.map .str) n = (appendName names n).map .str := by
  have found : (names.map Json.str).any (isNamed [n]) = decide (n ∈ names) := by
    rw [List.any_map, Bool.eq_iff_iff]
    simp [List.any_eq_true]
  rw [appendRequired, found, appendName]
  by_cases hn : n ∈ names
  · rw [if_pos (decide_eq_true hn), if_pos hn]
  · rw [if_neg (by simpa using hn), if_neg hn, List.map_append, List.map_singleton]

theorem foldl_appendRequired_map_str :
    given.foldl appendRequired (names.map .str) = (given.foldl appendName names).map .str := by
  induction given generalizing names with
  | nil => rfl
  | cons n rest ih => rw [List.foldl_cons, appendRequired_map_str, ih, List.foldl_cons]

theorem nodup_foldl_appendName (h : names.Nodup) : (given.foldl appendName names).Nodup := by
  induction given generalizing names with
  | nil => exact h
  | cons n rest ih =>
    rw [List.foldl_cons]
    refine ih ?_
    rw [appendName]
    split
    · exact h
    · next hn =>
      refine List.nodup_append.2 ⟨h, List.pairwise_singleton _ n, ?_⟩
      rintro k hk _ hkn rfl
      obtain rfl := List.mem_singleton.1 hkn
      exact hn hk

theorem mem_foldl_appendName : k ∈ given.foldl appendName names ↔ k ∈ names ∨ k ∈ given := by
  induction given generalizing names with
  | nil => simp
  | cons n rest ih =>
    have appended : k ∈ appendName names n ↔ k ∈ names ∨ k = n := by
      rw [appendName]
      split
      · next hn =>
        refine ⟨.inl, ?_⟩
        rintro (h | rfl)
        · exact h
        · exact hn
      · simp
    rw [List.foldl_cons, ih, appended, List.mem_cons, or_assoc]

theorem mem_keys_of_property {schema : Json} (hms : doc.get? "properties" = some (.obj ms))
    (h : property doc n = .ok schema) : n ∈ Members.keys ms := by
  unfold property property? at h
  rw [hms] at h
  cases hn : Members.get? ms n with
  | none =>
    rw [show (some (Json.obj ms)).bind (·.get? n) = Members.get? ms n from rfl, hn] at h
    cases h
  | some s => exact Members.mem_keys_of_get? hn

/-! ## Edits -/

/-- An edit of a document. `operation` is what the caller calls it. -/
inductive Edit where
  /-- Adds or replaces properties. -/
  | add (properties : Members)
  /-- Takes out properties. -/
  | remove (operation : String) (names : List String)
  | required (names : List String)
  | notRequired (operation : String) (names : List String)
  /-- Narrows the document to some properties. -/
  | props (names : List String)
  | setKeyword (k : Keyword) (v : Json)

namespace Edit

def apply (doc : Json) : Edit → SchemaResult Json
  | .add properties => return Document.add doc properties
  | .remove operation names => Document.remove operation doc names
  | .required names => Document.required doc names
  | .notRequired operation names => Document.notRequired operation doc names
  | .props names => Document.props doc names
  | .setKeyword k v => return Document.setKeyword doc k v

/-- An edit that narrows to some properties names none of them twice. -/
def NamesOnce : Edit → Prop
  | .props names => names.Nodup
  | _ => True

end Edit

theorem props_eq_ok (h : props doc names = .ok doc') :
    ∃ schemas, Members.keys schemas = names ∧ doc' = closed names (Members.ofList schemas) := by
  obtain ⟨-, -, h⟩ := bind_eq_ok.1 h
  obtain ⟨schemas, hschemas, h⟩ := bind_eq_ok.1 h
  cases h
  exact ⟨schemas, Members.keys_of_mapM hschemas, rfl⟩

/-- Narrowing gives a clean document just when it repeats no name. -/
theorem clean_props_iff (h : props doc names = .ok doc') : Clean doc' ↔ names.Nodup := by
  obtain ⟨schemas, rfl, rfl⟩ := props_eq_ok h
  constructor
  · rintro ⟨others, ms, hlists⟩
    have same : Json.ofStrings (Members.keys schemas) = Json.ofStrings others :=
      Option.some.inj hlists.required
    have equal : Members.keys schemas = others :=
      List.map_injective_iff.2 (fun _ _ h => Json.str.inj h) (Json.arr.inj same)
    exact equal ▸ hlists.nodup
  · intro nodup
    refine ⟨Members.keys schemas, Members.ofList schemas, rfl, rfl, nodup, fun n hn => ?_⟩
    exact Members.mem_keys_insertAll.2 (.inr hn)

/-- **One edit** of a clean document gives a clean one, unless it names a property twice. -/
theorem Edit.clean_apply {edit : Edit} (hdoc : Clean doc) (h : edit.apply doc = .ok doc') :
    Clean doc' ↔ edit.NamesOnce := by
  obtain ⟨names, ms, hlists⟩ := hdoc
  cases edit with
  | add properties =>
    cases h
    exact iff_of_true ⟨_, _, hlists.add properties⟩ trivial
  | remove operation given =>
    obtain ⟨-, -, h⟩ := bind_eq_ok.1 h
    cases h
    refine iff_of_true ⟨_, _, (hlists.dropRequired given).updateProperties fun n hn => ?_⟩ trivial
    obtain ⟨hn, kept⟩ := List.mem_filter.1 hn
    exact mem_keys_foldl_erase.2 ⟨hlists.known n hn, of_decide_eq_true kept⟩
  | required given =>
    obtain ⟨-, -, h⟩ := bind_eq_ok.1 h
    obtain ⟨u, known, h⟩ := bind_eq_ok.1 h
    cases h
    refine iff_of_true ⟨_, _, hlists.updateRequired foldl_appendRequired_map_str
      (nodup_foldl_appendName hlists.nodup) fun n hn => ?_⟩ trivial
    rcases mem_foldl_appendName.1 hn with hn | hn
    · exact hlists.known n hn
    · obtain ⟨schema, hschema, -⟩ := bind_eq_ok.1 (forM_eq_ok.1 known n hn)
      exact mem_keys_of_property hlists.properties hschema
  | notRequired operation given =>
    obtain ⟨-, -, h⟩ := bind_eq_ok.1 h
    cases h
    exact iff_of_true ⟨_, _, hlists.dropRequired given⟩ trivial
  | props given => exact clean_props_iff h
  | setKeyword k v =>
    cases h
    exact iff_of_true ⟨_, _, hlists.setKeyword k v⟩ trivial

/-- The documents along a run of edits, the first one apart. -/
def trail (doc : Json) : List Edit → SchemaResult (List Json)
  | [] => return []
  | edit :: rest => do
    let next ← edit.apply doc
    return next :: (← trail next rest)

/-- **Runs of edits.** The documents along a run from a clean document are clean just when no
narrowing in it repeats a name. -/
theorem clean_of_trail_iff {edits : List Edit} {docs : List Json} (hdoc : Clean doc)
    (h : trail doc edits = .ok docs) :
    (∀ d ∈ docs, Clean d) ↔ ∀ edit ∈ edits, edit.NamesOnce := by
  induction edits generalizing doc docs with
  | nil =>
    cases h
    exact iff_of_true nofun nofun
  | cons edit rest ih =>
    obtain ⟨next, hnext, h⟩ := bind_eq_ok.1 h
    obtain ⟨after, hafter, h⟩ := bind_eq_ok.1 h
    cases h
    rw [List.forall_mem_cons, List.forall_mem_cons, edit.clean_apply hdoc hnext]
    refine and_congr_right fun once => ih ?_ hafter
    exact (edit.clean_apply hdoc hnext).2 once

/-- A document with one property, which it requires. -/
def single : Json := .obj [
  ("type", .str "object"),
  ("required", Json.ofStrings ["a"]),
  ("properties", .obj [("a", .obj [])])]

theorem lists_single : Lists single ["a"] [("a", .obj [])] :=
  ⟨rfl, rfl, List.pairwise_singleton _ _, by simp [Members.keys]⟩

theorem clean_run_of_single : ∃ docs, trail single [.required ["a", "a"],
    .add [("b", .bool true)], .props ["b", "a"], .remove "omit" ["a", "c"]] = .ok docs ∧
    ∀ d ∈ docs, Clean d := by
  have run : (trail single [.required ["a", "a"], .add [("b", .bool true)], .props ["b", "a"],
      .remove "omit" ["a", "c"]]).isOk = true := by decide +kernel
  obtain ⟨docs, hdocs⟩ := exists_of_isOk run
  refine ⟨docs, hdocs, (clean_of_trail_iff ⟨_, _, lists_single⟩ hdocs).2 ?_⟩
  simp [Edit.NamesOnce]

/-- Narrowing to a name that is given twice requires it twice. -/
theorem narrowing_repeats_names : Clean single ∧ ∃ next,
    trail single [.props ["a", "a"]] = .ok [next] ∧
    next.get? "required" = some (Json.ofStrings ["a", "a"]) ∧ ¬ Clean next := by
  have narrowed : props single ["a", "a"] = .ok (closed ["a", "a"] [("a", .obj [])]) := rfl
  refine ⟨⟨_, _, lists_single⟩, _, rfl, rfl, fun h => ?_⟩
  exact absurd ((clean_props_iff narrowed).1 h) (by decide)

end EntitySchema.Document
