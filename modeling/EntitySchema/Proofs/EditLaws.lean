import EntitySchema.Proofs.Edits
import EntitySchema.Proofs.Selections

/-!
# Laws of edits

Taking names out of a document, and requiring them, works like taking out and joining sets: it does
not matter in which order names are given, in how many steps, or how often, and adding properties is
undone by taking them out (`edits_agree`). Taking out leaves everything else as it is and in its
order (`Without`).

All of it comes from how an edit looks at a document: through its two sections. What was put into a
section is read back, the last thing that was put wins, and putting back what is there changes
nothing; a section that has its place keeps it when the other one is edited. An edit of a section is
then a function on lists, and the laws are those of filters and of appending new names.
-/

namespace EntitySchema.Document

variable {doc : Json} {names others : List String} {n operation : String}

/-! ## Sections -/

section
variable (doc : Json) (f : List Json → List Json) (g : Members → Members)

theorem requiredItems_updateRequired :
    requiredItems (updateRequired doc f) = f (requiredItems doc) := by
  rw [requiredItems, ← get?_eq_members, updateRequired, get?_set, if_pos rfl]
  rfl

theorem propertyMembers_updateRequired :
    propertyMembers (updateRequired doc f) = propertyMembers doc := by
  rw [propertyMembers, ← get?_eq_members, updateRequired, get?_set_of_ne (by decide),
    get?_eq_members, propertyMembers]

theorem requiredItems_updateProperties :
    requiredItems (updateProperties doc g) = requiredItems doc := by
  rw [requiredItems, ← get?_eq_members, updateProperties, get?_set_of_ne (by decide),
    get?_eq_members, requiredItems]

theorem propertyMembers_updateProperties :
    propertyMembers (updateProperties doc g) = g (propertyMembers doc) := by
  rw [propertyMembers, ← get?_eq_members, updateProperties, get?_set, if_pos rfl]
  rfl

theorem updateRequired_updateRequired (f' : List Json → List Json) :
    updateRequired (updateRequired doc f) f' = updateRequired doc fun items => f' (f items) := by
  rw [updateRequired, requiredItems_updateRequired]
  exact congrArg Json.obj (Members.insert_insert _ _ _ _)

theorem updateProperties_updateProperties (g' : Members → Members) :
    updateProperties (updateProperties doc g) g' = updateProperties doc fun ms => g' (g ms) := by
  rw [updateProperties, propertyMembers_updateProperties]
  exact congrArg Json.obj (Members.insert_insert _ _ _ _)

/-- A document that has a list of required names can have its properties edited before it or
after. -/
theorem updateRequired_updateProperties (h : "required" ∈ Members.keys (members doc)) :
    updateRequired (updateProperties doc g) f = updateProperties (updateRequired doc f) g := by
  have outer : updateProperties (updateRequired doc f) g =
      set (updateRequired doc f) "properties" (.obj (g (propertyMembers doc))) := by
    rw [updateProperties, propertyMembers_updateRequired]
  rw [outer, updateRequired, requiredItems_updateProperties]
  exact congrArg Json.obj (Members.insert_insert_of_ne (by decide) h _ _)

end

theorem required_mem_keys_updateRequired (doc : Json) (f : List Json → List Json) :
    "required" ∈ Members.keys (members (updateRequired doc f)) :=
  Members.mem_keys_insert.2 (.inl rfl)

theorem updateRequired_of_get? {items : List Json} {f : List Json → List Json}
    (h : doc.get? "required" = some (.arr items)) (hf : f items = items) :
    updateRequired doc f = doc := by
  cases doc with
  | obj ms =>
    have found : requiredItems (.obj ms) = items := by
      rw [requiredItems, ← get?_eq_members, h]
      rfl
    rw [updateRequired, found, hf]
    exact congrArg Json.obj (Members.insert_of_get? h)
  | _ => cases h

theorem updateProperties_of_get? {ms : Members} {g : Members → Members}
    (h : doc.get? "properties" = some (.obj ms)) (hg : g ms = ms) :
    updateProperties doc g = doc := by
  cases doc with
  | obj entries =>
    have found : propertyMembers (.obj entries) = ms := by
      rw [propertyMembers, ← get?_eq_members, h]
      rfl
    rw [updateProperties, found, hg]
    exact congrArg Json.obj (Members.insert_of_get? h)
  | _ => cases h

/-! ## Taking names out -/

/-- The entries of `required` that are none of some names. -/
def unnamedItems (names : List String) (items : List Json) : List Json :=
  items.filter fun entry => !isNamed names entry

/-- The properties that have none of some names. -/
def unnamedMembers (names : List String) (ms : Members) : Members :=
  ms.filter fun m => !names.contains m.1

/-- A document without some names, in both sections. -/
def without (doc : Json) (names : List String) : Json :=
  updateProperties (updateRequired doc (unnamedItems names)) (unnamedMembers names)

theorem isNamed_append (entry : Json) :
    isNamed (names ++ others) entry = (isNamed names entry || isNamed others entry) := by
  cases entry with
  | str n => simp
  | _ => rfl

theorem unnamedItems_append (items : List Json) :
    unnamedItems others (unnamedItems names items) = unnamedItems (names ++ others) items := by
  rw [unnamedItems, unnamedItems, List.filter_filter, unnamedItems]
  refine List.filter_congr fun entry _ => ?_
  rw [isNamed_append, Bool.not_or, Bool.and_comm]

theorem unnamedMembers_append (ms : Members) :
    unnamedMembers others (unnamedMembers names ms) = unnamedMembers (names ++ others) ms := by
  rw [unnamedMembers, unnamedMembers, List.filter_filter, unnamedMembers]
  refine List.filter_congr fun m _ => ?_
  simp [Bool.and_comm]

/-- Names can be taken out in two steps. -/
theorem without_without (doc : Json) (names others : List String) :
    without (without doc names) others = without doc (names ++ others) := by
  rw [without, without,
    updateRequired_updateProperties _ _ _ (required_mem_keys_updateRequired doc _),
    updateRequired_updateRequired, updateProperties_updateProperties, without]
  congr 1
  · exact congrArg _ (funext unnamedItems_append)
  · exact funext unnamedMembers_append

/-- It does not matter in which order names are given, or how often. -/
theorem without_congr (doc : Json) (h : ∀ n, n ∈ names ↔ n ∈ others) :
    without doc names = without doc others := by
  have contains (n : String) : names.contains n = others.contains n := by
    rw [Bool.eq_iff_iff]
    simpa using h n
  have items : unnamedItems names = unnamedItems others := by
    refine funext fun items => List.filter_congr fun entry _ => ?_
    cases entry with
    | str n => rw [isNamed_str, isNamed_str, contains]
    | _ => rfl
  have members : unnamedMembers names = unnamedMembers others :=
    funext fun ms => List.filter_congr fun m _ => by rw [contains]
  rw [without, items, members, without]

theorem checkNames_eq_ok (hne : names ≠ []) : checkNames names operation = .ok () := by
  rw [checkNames, if_neg (by simpa using hne)]
  rfl

theorem remove_eq (hne : names ≠ []) (doc : Json) :
    remove operation doc names = .ok (without doc names) := by
  rw [remove, checkNames_eq_ok hne, funext (Members.foldl_erase names)]
  rfl

/-- Whether a key is that of neither section. -/
def elsewhere (key : String) : Bool := key != "required" && key != "properties"

/-- What is left when names are taken out of a document: no such name in either section, and
everything else as it was and in its order. A section that was not there is the last key. -/
structure Without (doc doc' : Json) (names : List String) : Prop where
  absent : ∀ n ∈ names, property? doc' n = none ∧ .str n ∉ requiredItems doc'
  required : doc'.get? "required" = some (.arr (unnamedItems names (requiredItems doc)))
  properties : doc'.get? "properties" = some (.obj (unnamedMembers names (propertyMembers doc)))
  others : ((members doc').filter fun m => elsewhere m.1) =
    (members doc).filter fun m => elsewhere m.1
  keys : Members.keys (members doc') =
    ["required", "properties"].foldl appendName (Members.keys (members doc))

theorem keys_set (doc : Json) (key : String) (v : Json) :
    Members.keys (members (set doc key v)) = appendName (Members.keys (members doc)) key := by
  rw [appendName]
  split
  · next h => exact Members.keys_insert_of_mem h
  · next h => exact Members.keys_insert_of_not_mem h

theorem without_spec (doc : Json) (names : List String) :
    Without doc (without doc names) names := by
  have required : (without doc names).get? "required" =
      some (.arr (unnamedItems names (requiredItems doc))) := by
    rw [without, updateProperties, get?_set_of_ne (by decide), updateRequired, get?_set,
      if_pos rfl]
  have properties : (without doc names).get? "properties" =
      some (.obj (unnamedMembers names (propertyMembers doc))) := by
    rw [without, updateProperties, get?_set, if_pos rfl, propertyMembers_updateRequired]
  refine ⟨fun n hn => ⟨?_, ?_⟩, required, properties, ?_, ?_⟩
  · rw [property?, properties]
    refine (Members.get?_filter (fun k => !names.contains k) _ n).trans (if_neg ?_)
    simpa using hn
  · rw [requiredItems, ← get?_eq_members, required]
    intro hmem
    have kept := (List.mem_filter.1 hmem).2
    rw [isNamed_str] at kept
    simp [hn] at kept
  · have dropped (doc : Json) (v : Json) {key : String} (hkey : elsewhere key = false) :
        (members (set doc key v)).filter (fun m => elsewhere m.1) =
          (members doc).filter fun m => elsewhere m.1 :=
      Members.filter_insert hkey
    rw [without, updateProperties, dropped _ _ (by decide), updateRequired,
      dropped _ _ (by decide)]
  · rw [without, updateProperties, keys_set, updateRequired, keys_set]
    rfl

/-! ## Requiring names -/

theorem forM_property_eq_ok : (names.forM fun n => do let _ ← property doc n) = .ok () ↔
    HasAll doc names := by
  rw [forM_eq_ok]
  refine forall₂_congr fun n _ => ?_
  rw [property]
  cases property? doc n with
  | none => simp [bind, Except.bind, fail]
  | some schema => simp [bind, Except.bind, pure, Except.pure]

theorem required_eq (hne : names ≠ []) (h : HasAll doc names) : required doc names =
    .ok (updateRequired doc fun items => names.foldl appendRequired items) := by
  rw [required, checkNames_eq_ok hne]
  show ((names.forM fun n => do let _ ← property doc n) >>= fun _ => _) = _
  rw [forM_property_eq_ok.2 h]
  rfl

theorem notRequired_eq (hne : names ≠ []) (doc : Json) :
    notRequired operation doc names = .ok (updateRequired doc (unnamedItems names)) := by
  rw [notRequired, checkNames_eq_ok hne]
  rfl

/-- Where only names are required, requiring more of them puts a list of names in place. -/
theorem required_eq_requiredList {old : List String} (hdoc : requiredItems doc = old.map .str)
    (hne : names ≠ []) (h : HasAll doc names) :
    required doc names = .ok (requiredList doc (names.foldl appendName old)) := by
  rw [required_eq hne h, updateRequired, hdoc, foldl_appendRequired_map_str]
  rfl

theorem notRequired_eq_requiredList {old : List String} (hdoc : requiredItems doc = old.map .str)
    (hne : names ≠ []) :
    notRequired operation doc names = .ok (requiredList doc (old.filter (· ∉ names))) := by
  rw [notRequired_eq hne, updateRequired, hdoc, unnamedItems, Lists.filter_map_str]
  rfl

/-- An edit of the required names keeps the properties. -/
theorem hasAll_updateRequired {f : List Json → List Json} :
    HasAll (updateRequired doc f) names ↔ HasAll doc names := by
  refine forall₂_congr fun n _ => ?_
  rw [property?, updateRequired, get?_set_of_ne (by decide), property?]

/-- Taking names out takes out those that were appended. -/
theorem unnamedItems_foldl_appendRequired (known : ∀ n ∈ others, n ∈ names) (items : List Json) :
    unnamedItems names (others.foldl appendRequired items) = unnamedItems names items := by
  induction others generalizing items with
  | nil => rfl
  | cons n rest ih =>
    have dropped : unnamedItems names (appendRequired items n) = unnamedItems names items := by
      rw [appendRequired]
      split
      · rfl
      · simp [unnamedItems, known n List.mem_cons_self]
    rw [List.foldl_cons, ih fun k hk => known k (List.mem_cons_of_mem _ hk), dropped]

/-! ## Adding properties -/

/-- Properties that are new to a document are taken out again. -/
theorem without_add {items : List Json} {ms properties : Members}
    (hitems : doc.get? "required" = some (.arr items))
    (hms : doc.get? "properties" = some (.obj ms))
    (fresh : ∀ k ∈ Members.keys properties, k ∉ Members.keys ms ∧ .str k ∉ items) :
    without (add doc properties) (Members.keys properties) = doc := by
  have present : "required" ∈ Members.keys (members doc) :=
    Members.mem_keys_of_get? ((get?_eq_members doc _).symm.trans hitems)
  have itemsKept : unnamedItems (Members.keys properties) items = items := by
    refine List.filter_eq_self.2 fun entry hentry => ?_
    cases entry with
    | str n =>
      rw [isNamed_str, Bool.not_eq_true', List.contains_eq_mem, decide_eq_false_iff_not]
      exact fun hn => (fresh n hn).2 hentry
    | _ => rfl
  have membersKept :
      unnamedMembers (Members.keys properties) (Members.insertAll ms properties) = ms := by
    rw [unnamedMembers, Members.filter_insertAll
      (s := fun k => !(Members.keys properties).contains k) fun k hk => by simp [hk]]
    refine List.filter_eq_self.2 fun m hm => ?_
    rw [Bool.not_eq_true', List.contains_eq_mem, decide_eq_false_iff_not]
    exact fun hn => (fresh m.1 hn).1 (Members.mem_keys_of_mem hm)
  rw [without, add, updateRequired_updateProperties _ _ _ present,
    updateRequired_of_get? hitems itemsKept, updateProperties_updateProperties,
    updateProperties_of_get? hms membersKept]

/-! ## All laws -/

/-- **Laws of edits.** Names can be taken out together, in two steps or in the other order; what is
left is the document without them. Names that a document has can be required together or in two
steps, and are taken out of the required ones again. Properties that are new to both sections are
taken out again. -/
theorem edits_agree (doc : Json) (hne : names ≠ []) (hne' : others ≠ []) (operation : String) :
    (∃ doc', remove operation doc (names ++ others) = .ok doc' ∧
      (do remove operation (← remove operation doc names) others) = .ok doc' ∧
      (do remove operation (← remove operation doc others) names) = .ok doc' ∧
      Without doc doc' (names ++ others)) ∧
    (HasAll doc (names ++ others) → ∃ doc', required doc (names ++ others) = .ok doc' ∧
      (do required (← required doc names) others) = .ok doc') ∧
    (HasAll doc names → ∃ doc', notRequired operation doc names = .ok doc' ∧
      (do notRequired operation (← required doc names) names) = .ok doc') ∧
    ∀ items ms properties, doc.get? "required" = some (.arr items) →
      doc.get? "properties" = some (.obj ms) → properties ≠ [] →
      (∀ k ∈ Members.keys properties, k ∉ Members.keys ms ∧ .str k ∉ items) →
      remove operation (add doc properties) (Members.keys properties) = .ok doc := by
  have hne'' : names ++ others ≠ [] := List.append_ne_nil_of_left_ne_nil hne others
  refine ⟨⟨_, remove_eq hne'' doc, ?_, ?_, without_spec doc _⟩, fun h => ?_, fun h => ?_, ?_⟩
  · rw [remove_eq hne, ← without_without]
    exact remove_eq hne' _
  · have swapped : without doc (names ++ others) = without doc (others ++ names) :=
      without_congr doc fun n => by simp [or_comm]
    rw [remove_eq hne', swapped, ← without_without]
    exact remove_eq hne _
  · have first : HasAll doc names := fun n hn => h n (List.mem_append_left others hn)
    have second : HasAll doc others := fun n hn => h n (List.mem_append_right names hn)
    refine ⟨_, required_eq hne'' h, ?_⟩
    rw [required_eq hne first]
    refine (required_eq hne' (hasAll_updateRequired.2 second)).trans ?_
    rw [updateRequired_updateRequired]
    simp only [List.foldl_append]
  · refine ⟨_, notRequired_eq hne doc, ?_⟩
    rw [required_eq hne h]
    refine (notRequired_eq hne _).trans ?_
    rw [updateRequired_updateRequired, funext (unnamedItems_foldl_appendRequired fun _ => id)]
  · intro items ms properties hitems hms hp fresh
    have some : Members.keys properties ≠ [] := mt List.map_eq_nil_iff.1 hp
    rw [remove_eq some, without_add hitems hms fresh]

/-- A document with three properties, which requires the second one. -/
def threefold : Json := .obj [
  ("properties", .obj [("a", .obj []), ("b", .bool true), ("c", .obj [])]),
  ("required", Json.ofStrings ["b"]),
  ("type", .str "object")]

theorem edits_agree_threefold :
    (∃ doc', remove "omit" threefold ["a", "a", "b"] = .ok doc' ∧
      (do remove "omit" (← remove "omit" threefold ["a", "a"]) ["b"]) = .ok doc' ∧
      (do remove "omit" (← remove "omit" threefold ["b"]) ["a", "a"]) = .ok doc' ∧
      Without threefold doc' ["a", "a", "b"]) ∧
    (∃ doc', required threefold ["a", "a", "b"] = .ok doc' ∧
      (do required (← required threefold ["a", "a"]) ["b"]) = .ok doc') ∧
    (∃ doc', notRequired "omit" threefold ["a", "a"] = .ok doc' ∧
      (do notRequired "omit" (← required threefold ["a", "a"]) ["a", "a"]) = .ok doc') ∧
    remove "omit" (add threefold [("d", .bool true)]) ["d"] = .ok threefold := by
  obtain ⟨removal, requiring, dropping, adding⟩ :=
    edits_agree threefold (List.cons_ne_nil "a" ["a"]) (List.cons_ne_nil "b" []) "omit"
  have both : HasAll threefold (["a", "a"] ++ ["b"]) := by
    unfold HasAll
    decide
  refine ⟨removal, requiring both, dropping fun n hn => both n (List.mem_append_left _ hn), ?_⟩
  exact adding _ _ [("d", .bool true)] rfl rfl (List.cons_ne_nil _ _) (by decide)

end EntitySchema.Document
