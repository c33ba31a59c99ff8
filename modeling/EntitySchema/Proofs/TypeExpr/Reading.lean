import EntitySchema.Fragment
import EntitySchema.Proofs.Json.Nesting
import EntitySchema.Proofs.Outcome

/-!
# What is read of expressions and fragments

An expression and a fragment are read member by member. An expression looks at some members only
(`Descriptor.decode_known`), so members with other keys may come, go and move. A fragment takes one
member for its storage type and keeps all others as they are (`Fragment.decode_obj`).

An argument is what the first of three readings makes of it: an expression, a fragment, a literal.
-/

namespace EntitySchema

variable {ms : Members} {v : Json}

theorem decodeArguments_eq (xs : List Json) : decodeArguments xs = xs.map decodeArgument := by
  induction xs with
  | nil => rfl
  | cons x xs ih => rw [decodeArguments, ih, List.map_cons]

theorem encodeArguments_eq (as : List Argument) : encodeArguments as = as.map Argument.encode := by
  induction as with
  | nil => rfl
  | cons a as ih => rw [encodeArguments, ih, List.map_cons]

/-! ## Expressions -/

namespace DescriptorParts

/-- Reads one member of an expression. -/
def add (p : DescriptorParts) (m : String × Json) : Except DecodeError DescriptorParts :=
  if m.1 = "kind" then
    if p.tagged then .error (.duplicateField m.1)
    else do
      Decode.variant [("DataType", ())] m.2
      return { p with tagged := true }
  else if m.1 = "path" then
    if p.path.isSome then .error (.duplicateField m.1)
    else do return { p with path := some (← Decode.string m.2) }
  else if m.1 = "args" then
    if p.args.isSome then .error (.duplicateField m.1)
    else do return { p with args := some ((← Decode.sequence m.2).map decodeArgument) }
  else return { p with others := p.others ++ [m] }

end DescriptorParts

theorem decodeDescriptorMembers_eq (p : DescriptorParts) (ms : Members) :
    decodeDescriptorMembers p ms = ms.foldlM DescriptorParts.add p := by
  induction ms generalizing p with
  | nil => rfl
  | cons m ms ih =>
    obtain ⟨k, v⟩ := m
    unfold decodeDescriptorMembers
    simp only [List.foldlM_cons, DescriptorParts.add, ih, decodeArguments_eq]
    split
    · split
      · rfl
      · cases Decode.variant [("DataType", ())] v <;> rfl
    · split
      · split
        · rfl
        · cases Decode.string v <;> rfl
      · split
        · split
          · rfl
          · cases v <;> rfl
        · rfl

theorem Descriptor.decode_obj (ms : Members) : Descriptor.decode (.obj ms) =
    (ms.foldlM DescriptorParts.add {}) >>= DescriptorParts.finish := by
  rw [← decodeDescriptorMembers_eq]
  rfl

/-- An expression is an object. -/
theorem Descriptor.exists_obj_of_decode {d : Descriptor} (h : Descriptor.decode v = .ok d) :
    ∃ ms, v = .obj ms := by
  cases v with
  | obj ms => exact ⟨ms, rfl⟩
  | _ => cases h

/-! ### Members that do not matter -/

namespace Descriptor

/-- Whether an expression looks at the members of a key. -/
def known (k : String) : Bool :=
  k == "kind" || k == "path" || k == "args" || (Modifier.ofName? k).isSome

theorem decodeFrom_known (ms : Members) (seen : List Modifier) (f : Flags) :
    Flags.decodeFrom (ms.filter fun m => known m.1) seen f = Flags.decodeFrom ms seen f := by
  induction ms generalizing seen f with
  | nil => rfl
  | cons m ms ih =>
    obtain ⟨k, v⟩ := m
    cases hm : Modifier.ofName? k with
    | none =>
      rw [Flags.decodeFrom, hm, List.filter_cons]
      split
      · rw [Flags.decodeFrom, hm]
        exact ih seen f
      · exact ih seen f
    | some m =>
      rw [List.filter_cons_of_pos (by simp [known, hm]), Flags.decodeFrom, Flags.decodeFrom, hm]
      simp only [ih]

/-- What has been read, without the members that do not matter. -/
def trim (p : DescriptorParts) : DescriptorParts :=
  { p with others := p.others.filter fun m => known m.1 }

theorem finish_trim (p : DescriptorParts) : (trim p).finish = p.finish := by
  unfold DescriptorParts.finish trim
  simp only [decodeFrom_known]

theorem add_trim {m : String × Json} (hm : known m.1 = true) (p : DescriptorParts) :
    (trim p).add m = (p.add m).map trim := by
  obtain ⟨tagged, path, args, others⟩ := p
  unfold DescriptorParts.add
  split
  · cases tagged with
    | true => rfl
    | false => cases Decode.variant [("DataType", ())] m.2 <;> rfl
  · split
    · cases path with
      | some _ => rfl
      | none => cases Decode.string m.2 <;> rfl
    · split
      · cases args with
        | some _ => rfl
        | none => cases Decode.sequence m.2 <;> rfl
      · show Except.ok _ = Except.ok _
        simp [trim, List.filter_append, hm]

theorem add_of_not_known {m : String × Json} (hm : known m.1 = false) (p : DescriptorParts) :
    p.add m = .ok { p with others := p.others ++ [m] } := by
  simp only [known, Bool.or_eq_false_iff, beq_eq_false_iff_ne] at hm
  unfold DescriptorParts.add
  rw [if_neg hm.1.1.1, if_neg hm.1.1.2, if_neg hm.1.2]
  rfl

theorem foldlM_known (p : DescriptorParts) (ms : Members) :
    (ms.filter fun m => known m.1).foldlM DescriptorParts.add (trim p) =
      (ms.foldlM DescriptorParts.add p).map trim := by
  induction ms generalizing p with
  | nil => rfl
  | cons m ms ih =>
    cases hm : known m.1 with
    | true =>
      rw [List.filter_cons_of_pos (by simp [hm]), List.foldlM_cons, List.foldlM_cons, add_trim hm]
      cases p.add m with
      | error e => rfl
      | ok q => exact ih q
    | false =>
      have trimmed : trim { p with others := p.others ++ [m] } = trim p := by
        simp [trim, List.filter_append, hm]
      rw [List.filter_cons_of_neg (by simp [hm]), List.foldlM_cons, add_of_not_known hm, ← trimmed]
      exact ih _

/-- **Members with other keys do not matter to an expression.** -/
theorem decode_known (ms : Members) :
    Descriptor.decode (.obj (ms.filter fun m => known m.1)) = Descriptor.decode (.obj ms) := by
  have read : (ms.filter fun m => known m.1).foldlM DescriptorParts.add {} =
      (ms.foldlM DescriptorParts.add {}).map trim := foldlM_known {} ms
  rw [decode_obj, decode_obj, read]
  cases ms.foldlM DescriptorParts.add {} with
  | error e => rfl
  | ok q => exact finish_trim q

theorem decode_congr {ms ns : Members}
    (h : (ms.filter fun m => known m.1) = ns.filter fun m => known m.1) :
    Descriptor.decode (.obj ms) = Descriptor.decode (.obj ns) := by
  rw [← decode_known ms, h, decode_known]

end Descriptor

/-! ### Arguments and flags -/

theorem foldlM_add_others (p : DescriptorParts) (ms : Members)
    (h : ∀ m ∈ ms, m.1 ∉ ["kind", "path", "args"]) :
    ms.foldlM DescriptorParts.add p = .ok { p with others := p.others ++ ms } := by
  have collect := foldlM_collect (f := DescriptorParts.add) (l := ms)
    (fun ns => { p with others := p.others ++ ns }) fun done m rest hms => by
      have hm := h m (by simp [← hms])
      simp only [List.mem_cons, List.not_mem_nil, or_false, not_or] at hm
      rw [DescriptorParts.add, if_neg hm.1, if_neg hm.2.1, if_neg hm.2.2, ← List.append_assoc]
      rfl
  rwa [List.append_nil] at collect

/-- What the flags of an expression are written as is read as the same flags. -/
theorem Flags.decodeFrom_encode (f : Flags) : Flags.decodeFrom f.encode [] {} = .ok f := by
  obtain ⟨unsigned, zerofill, binary⟩ := f
  cases unsigned <;> cases zerofill <;> cases binary <;> rfl

theorem Flags.key_of_mem_encode {f : Flags} {m : String × Json} (h : m ∈ f.encode) :
    ∃ n : Modifier, m = (n.name, .bool true) := by
  obtain ⟨n, -, rfl⟩ := List.mem_map.1 h
  exact ⟨n, rfl⟩

/-- The values that are read as the arguments of an expression. -/
def Json.argumentItems (v : Json) : List Json := ((v.get? "args").bind Json.arr?).getD []

theorem Json.mem_argumentItems {x : Json} (h : x ∈ v.argumentItems) :
    ∃ ms xs, v = .obj ms ∧ Members.get? ms "args" = some (.arr xs) ∧ x ∈ xs := by
  unfold Json.argumentItems at h
  cases hw : (v.get? "args").bind Json.arr? with
  | none =>
    rw [hw] at h
    cases h
  | some xs =>
    rw [hw] at h
    obtain ⟨w, hget, harr⟩ := Option.bind_eq_some_iff.1 hw
    obtain ⟨ms, hobj, hget⟩ := Option.bind_eq_some_iff.1 hget
    cases v <;> cases hobj
    cases w <;> cases harr
    exact ⟨_, _, rfl, hget, h⟩

theorem Json.depth_lt_of_mem_argumentItems {x : Json} (h : x ∈ v.argumentItems) :
    x.depth < v.depth := by
  obtain ⟨ms, xs, rfl, hget, hx⟩ := Json.mem_argumentItems h
  exact Nat.lt_trans (Json.depth_lt_of_mem_arr hx)
    (Json.depth_lt_of_mem_obj (Members.mem_of_get? hget))

theorem Json.settled_of_mem_argumentItems {x : Json} (hv : v.Settled) (h : x ∈ v.argumentItems) :
    x.Settled := by
  obtain ⟨ms, xs, rfl, hget, hx⟩ := Json.mem_argumentItems h
  exact Json.settled_arr.1 ((Json.settled_obj.1 hv).2 _ (Members.mem_of_get? hget)) x hx

theorem args_of_add {p q : DescriptorParts} {m : String × Json} (h : p.add m = .ok q) :
    q.args = if m.1 = "args" then m.2.arr?.map (·.map decodeArgument) else p.args := by
  unfold DescriptorParts.add at h
  split at h
  · next hk =>
    rw [if_neg (by rw [hk]; decide)]
    split at h
    · cases h
    · obtain ⟨_, _, h⟩ := bind_eq_ok.1 h
      cases h
      rfl
  · split at h
    · next hp =>
      rw [if_neg (by rw [hp]; decide)]
      split at h
      · cases h
      · obtain ⟨_, _, h⟩ := bind_eq_ok.1 h
        cases h
        rfl
    · split at h
      · next ha =>
        rw [if_pos ha]
        split at h
        · cases h
        · obtain ⟨xs, hxs, h⟩ := bind_eq_ok.1 h
          cases h
          cases hv : m.2 <;> rw [hv] at hxs <;> cases hxs
          rfl
      · next ha =>
        rw [if_neg ha]
        cases h
        rfl

theorem args_of_foldlM {p q : DescriptorParts} (hn : (Members.keys ms).Nodup)
    (h : ms.foldlM DescriptorParts.add p = .ok q) :
    q.args = match Members.get? ms "args" with
      | none => p.args
      | some v => v.arr?.map (·.map decodeArgument) := by
  induction ms generalizing p with
  | nil =>
    cases h
    rfl
  | cons m rest ih =>
    obtain ⟨hm, hrest⟩ := List.nodup_cons.1 hn
    rw [List.foldlM_cons] at h
    obtain ⟨p', hp', h⟩ := bind_eq_ok.1 h
    rw [ih hrest h, Members.get?_cons, args_of_add hp']
    by_cases hk : m.1 = "args"
    · rw [if_pos hk, if_pos hk, Members.get?_eq_none_iff.2 (hk ▸ hm)]
    · rw [if_neg hk, if_neg hk]

theorem DescriptorParts.finish_eq_ok {p : DescriptorParts} {d : Descriptor}
    (h : p.finish = .ok d) : d.args = p.args.getD [] := by
  unfold finish at h
  split at h
  · cases h
  · split at h
    · obtain ⟨flags, -, h⟩ := bind_eq_ok.1 h
      cases h
      rfl
    · cases h

/-- **The arguments of an expression** are read from the items of its `args`. -/
theorem Descriptor.args_of_decode {d : Descriptor} (hv : v.Settled)
    (h : Descriptor.decode v = .ok d) : d.args = v.argumentItems.map decodeArgument := by
  obtain ⟨ms, rfl⟩ := Descriptor.exists_obj_of_decode h
  rw [Descriptor.decode_obj] at h
  obtain ⟨p, hp, h⟩ := bind_eq_ok.1 h
  have items : (Json.obj ms).argumentItems =
      ((Members.get? ms "args").bind Json.arr?).getD [] := rfl
  rw [DescriptorParts.finish_eq_ok h, args_of_foldlM (Json.settled_obj.1 hv).1 hp, items]
  cases Members.get? ms "args" with
  | none => rfl
  | some v => cases v <;> rfl

/-! ## References -/

/-- Reads what stands under the key for the storage type, if anything does. -/
def TypeRef.read? : Option Json → Except DecodeError (Option TypeRef)
  | none | some .null => return none
  | some v => do return some (← TypeRef.decode v)

namespace TypeRef

theorem decode_name {n : String} (h : TypeRef.decode v = .ok (.name n)) : v = .str n := by
  unfold TypeRef.decode at h
  split at h
  · cases h
    rfl
  · split at h <;> cases h

theorem decode_expr {d : Descriptor} (h : TypeRef.decode v = .ok (.expr d)) :
    Descriptor.decode v = .ok d := by
  unfold TypeRef.decode at h
  split at h
  · cases h
  · split at h
    · next d' hd =>
      cases h
      exact hd
    · cases h

theorem decode_of_expression {d : Descriptor} (h : Descriptor.decode v = .ok d) :
    TypeRef.decode v = .ok (.expr d) := by
  obtain ⟨ms, rfl⟩ := Descriptor.exists_obj_of_decode h
  simp only [TypeRef.decode, h]

/-- A reference is no null, so it is read where it stands for a storage type. -/
theorem read?_of_decode {r : TypeRef} (h : TypeRef.decode v = .ok r) :
    TypeRef.read? (some v) = .ok (some r) := by
  cases v with
  | null => cases h
  | _ =>
    show (TypeRef.decode _ >>= fun r => .ok (some r)) = _
    rw [h]
    rfl

/-- What is read where a storage type may stand: nothing, from a null or where nothing stands, or a
reference. -/
theorem read?_eq_ok {o : Option Json} {r? : Option TypeRef} (h : TypeRef.read? o = .ok r?) :
    (o = none ∨ o = some .null) ∧ r? = none ∨
    ∃ w r, o = some w ∧ r? = some r ∧ TypeRef.decode w = .ok r := by
  unfold TypeRef.read? at h
  split at h
  · cases h
    exact .inl ⟨.inl rfl, rfl⟩
  · cases h
    exact .inl ⟨.inr rfl, rfl⟩
  · next w _ =>
    obtain ⟨r, hr, h⟩ := bind_eq_ok.1 h
    cases h
    exact .inr ⟨w, r, rfl, rfl, hr⟩

theorem read?_eq_some {o : Option Json} {r : TypeRef} (h : TypeRef.read? o = .ok (some r)) :
    ∃ w, o = some w ∧ TypeRef.decode w = .ok r := by
  rcases read?_eq_ok h with ⟨-, hnone⟩ | ⟨w, r', hw, hr, hread⟩
  · cases hnone
  · cases hr
    exact ⟨w, hw, hread⟩

end TypeRef

/-! ## Fragments -/

/-- Reads one member of a fragment. -/
def FragmentParts.add (p : FragmentParts) (m : String × Json) : Except DecodeError FragmentParts :=
  if m.1 = "dataType" then
    if p.dataType.isSome then .error (.duplicateField m.1)
    else do return { p with dataType := some (← TypeRef.read? (some m.2)) }
  else return { p with keywords := Members.insert p.keywords m.1 m.2.settle }

theorem decodeFragmentMembers_eq (p : FragmentParts) (ms : Members) :
    decodeFragmentMembers p ms = ms.foldlM FragmentParts.add p := by
  induction ms generalizing p with
  | nil => rfl
  | cons m ms ih =>
    obtain ⟨k, v⟩ := m
    unfold decodeFragmentMembers
    simp only [List.foldlM_cons, FragmentParts.add, ih]
    split
    · split
      · rfl
      · cases v with
        | obj ds =>
          have expression : Descriptor.decode (.obj ds) =
              (decodeDescriptorMembers {} ds).bind DescriptorParts.finish := rfl
          simp only [TypeRef.read?, TypeRef.decode, expression]
          cases (decodeDescriptorMembers {} ds).bind DescriptorParts.finish <;> rfl
        | _ => rfl
    · rfl

theorem Fragment.decode_eq (ms : Members) : Fragment.decode (.obj ms) =
    (ms.foldlM FragmentParts.add {}).map FragmentParts.finish := by
  rw [← decodeFragmentMembers_eq]
  cases h : decodeFragmentMembers {} ms with
  | error e => simp only [Fragment.decode, h]; rfl
  | ok p => simp only [Fragment.decode, h]; rfl

namespace FragmentParts

/-- A member under another key is kept. -/
theorem add_keyword (p : FragmentParts) {m : String × Json} (hm : m.1 ≠ "dataType")
    (hs : m.2.Settled) (hp : m.1 ∉ Members.keys p.keywords) :
    p.add m = .ok { p with keywords := p.keywords ++ [m] } := by
  rw [add, if_neg hm, hs, Members.insert_of_not_mem hp]
  rfl

theorem foldlM_add_keywords (p : FragmentParts) {ms : Members}
    (hn : (Members.keys (p.keywords ++ ms)).Nodup) (hk : "dataType" ∉ Members.keys ms)
    (hs : ∀ m ∈ ms, m.2.Settled) :
    ms.foldlM add p = .ok { p with keywords := p.keywords ++ ms } := by
  have collect := foldlM_collect (f := add) (l := ms)
    (fun ns => { p with keywords := p.keywords ++ ns }) fun done m rest hms => by
      have hmem : m ∈ ms := by simp [← hms]
      have hne : m.1 ≠ "dataType" := fun h => hk (h ▸ Members.mem_keys_of_mem hmem)
      have distinct : (Members.keys (p.keywords ++ done ++ m :: rest)).Nodup := by
        rwa [List.append_assoc, hms]
      have fresh : m.1 ∉ Members.keys (p.keywords ++ done) := Members.not_mem_of_nodup distinct
      rw [add_keyword { p with keywords := p.keywords ++ done } hne (hs m hmem) fresh,
        List.append_assoc]
  rwa [List.append_nil] at collect

theorem finish_foldlM (p : FragmentParts) {ms : Members} (hp : p.dataType = none)
    (hn : (Members.keys (p.keywords ++ ms)).Nodup)
    (hs : ∀ m ∈ ms, m.1 ≠ "dataType" → m.2.Settled) :
    (ms.foldlM add p).map finish = (TypeRef.read? (Members.get? ms "dataType")).map fun r =>
      ⟨r, p.keywords ++ Members.erase ms "dataType"⟩ := by
  induction ms generalizing p with
  | nil =>
    show Except.ok p.finish = Except.ok _
    rw [finish, hp, Members.erase, List.filter_nil, List.append_nil]
    rfl
  | cons m rest ih =>
    have appended : p.keywords ++ m :: rest = p.keywords ++ [m] ++ rest := by simp
    have hrest : ∀ n ∈ rest, n.1 ≠ "dataType" → n.2.Settled := fun n hn => hs n (by simp [hn])
    by_cases hm : m.1 = "dataType"
    · have others : "dataType" ∉ Members.keys rest := by
        rw [Members.keys, List.map_append, List.map_cons, hm] at hn
        exact (List.nodup_cons.1 (List.nodup_append.1 hn).2.1).1
      have erased : Members.erase (m :: rest) "dataType" = rest := by
        rw [Members.erase, List.filter_cons_of_neg (by simp [hm])]
        exact Members.erase_of_not_mem others
      rw [List.foldlM_cons, add, if_pos hm, hp, Members.get?_cons, if_pos hm, erased]
      cases TypeRef.read? (some m.2) with
      | error e => rfl
      | ok r =>
        have distinct : (Members.keys (p.keywords ++ rest)).Nodup :=
          hn.sublist (((List.sublist_cons_self m rest).append_left p.keywords).map Prod.fst)
        have settled : ∀ n ∈ rest, n.2.Settled := fun n hn =>
          hrest n hn fun h => others (h ▸ Members.mem_keys_of_mem hn)
        exact congrArg (Except.map finish)
          (foldlM_add_keywords { p with dataType := some r } distinct others settled)
    · have erased : Members.erase (m :: rest) "dataType" = m :: Members.erase rest "dataType" := by
        rw [Members.erase, List.filter_cons_of_pos (by simpa using hm)]
        rfl
      rw [List.foldlM_cons, add_keyword p hm (hs m (by simp) hm) (Members.not_mem_of_nodup hn),
        Members.get?_cons, if_neg hm, erased]
      refine (ih { p with keywords := p.keywords ++ [m] } hp (appended ▸ hn) hrest).trans ?_
      simp

end FragmentParts

/-- **A fragment** has the storage type under the key for it, and all other members. -/
theorem Fragment.decode_obj (hn : (Members.keys ms).Nodup)
    (hs : ∀ m ∈ ms, m.1 ≠ "dataType" → m.2.Settled) :
    Fragment.decode (.obj ms) = (TypeRef.read? (Members.get? ms "dataType")).map fun r =>
      ⟨r, Members.erase ms "dataType"⟩ :=
  (Fragment.decode_eq ms).trans (FragmentParts.finish_foldlM {} rfl hn hs)

/-- The parts of a fragment that has been read. -/
theorem Fragment.decode_eq_ok {f : Fragment} (hv : v.Settled) (h : Fragment.decode v = .ok f) :
    ∃ ms, v = .obj ms ∧ TypeRef.read? (Members.get? ms "dataType") = .ok f.dataType ∧
      f.keywords = Members.erase ms "dataType" := by
  cases v with
  | obj ms =>
    obtain ⟨hn, hs⟩ := Json.settled_obj.1 hv
    rw [Fragment.decode_obj hn fun m hm _ => hs m hm] at h
    obtain ⟨r, hr, rfl⟩ := map_eq_ok.1 h
    exact ⟨ms, rfl, hr, rfl⟩
  | _ => cases h

/-! ## Arguments -/

theorem decodeArgument_obj (ms : Members) : decodeArgument (.obj ms) =
    match Descriptor.decode (.obj ms) with
    | .ok d => .nested d
    | .error _ => match Fragment.decode (.obj ms) with
      | .ok f => .schema f
      | .error _ => .literal (Json.obj ms).settle := by
  have fragment : Fragment.decode (.obj ms) =
      (decodeFragmentMembers {} ms).map FragmentParts.finish := by
    rw [Fragment.decode_eq, decodeFragmentMembers_eq]
  have expression : Descriptor.decode (.obj ms) =
      (decodeDescriptorMembers {} ms).bind DescriptorParts.finish := rfl
  rw [decodeArgument, fragment, expression]
  cases (decodeDescriptorMembers {} ms).bind DescriptorParts.finish with
  | ok d => rfl
  | error e => cases decodeFragmentMembers {} ms <;> rfl

/-- Whether a value reads as an expression. -/
def Json.IsExpression (v : Json) : Prop := ∃ d, Descriptor.decode v = .ok d

/-- Whether a value reads as a fragment. -/
def Json.IsFragment (v : Json) : Prop := ∃ f, Fragment.decode v = .ok f

theorem decodeArgument_of_expression {d : Descriptor} (h : Descriptor.decode v = .ok d) :
    decodeArgument v = .nested d := by
  obtain ⟨ms, rfl⟩ := Descriptor.exists_obj_of_decode h
  rw [decodeArgument_obj, h]

theorem decodeArgument_of_fragment {f : Fragment} (hv : ¬v.IsExpression)
    (h : Fragment.decode v = .ok f) : decodeArgument v = .schema f := by
  cases v with
  | obj ms =>
    rw [decodeArgument_obj]
    cases hd : Descriptor.decode (.obj ms) with
    | ok d => exact absurd ⟨d, hd⟩ hv
    | error e => rw [h]
  | _ => cases h

theorem decodeArgument_of_other (hv : ¬v.IsExpression) (hf : ¬v.IsFragment) :
    decodeArgument v = .literal v.settle := by
  cases v with
  | obj ms =>
    rw [decodeArgument_obj]
    cases hd : Descriptor.decode (.obj ms) with
    | ok d => exact absurd ⟨d, hd⟩ hv
    | error e =>
      cases h : Fragment.decode (.obj ms) with
      | ok f => exact absurd ⟨f, h⟩ hf
      | error e => rfl
  | _ => rw [decodeArgument]; rintro ms ⟨⟩

end EntitySchema
