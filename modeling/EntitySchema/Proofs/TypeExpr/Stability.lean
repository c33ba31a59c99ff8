import EntitySchema.Proofs.TypeExpr.Reading

/-!
# Reading, writing and reading again

What has been read of an expression, a reference, a fragment or an argument is written in one
certain form: without the members that did not matter, with the storage type in front and no null in
its place. Read again it is the same (`decodeArgument_stable`).

The risk is in the arguments, which are the first of three things that can be read from a value.
What was read as a fragment was no expression, and writing it changes no member that an expression
looks at (`Fragment.decode_descriptor_encode`), so it still is none. What was read as a literal is
written as it was.
-/

namespace EntitySchema

variable {v : Json}

/-- An expression that is written as Json from which it is read again. -/
def Descriptor.Stable (d : Descriptor) : Prop :=
  d.encode.Settled ∧ Descriptor.decode d.encode = .ok d

/-- A reference that is written as Json from which it is read again. -/
def TypeRef.Stable (r : TypeRef) : Prop :=
  r.encode.Settled ∧ TypeRef.decode r.encode = .ok r

/-- A fragment that is written as Json from which it is read again. -/
def Fragment.Stable (f : Fragment) : Prop :=
  f.encode.Settled ∧ Fragment.decode f.encode = .ok f

/-- What is read of what is written of an argument. -/
def Argument.reread (a : Argument) : Argument := decodeArgument a.encode

/-- An argument that is written as Json from which it is read again. -/
def Argument.Stable (a : Argument) : Prop := a.encode.Settled ∧ a.reread = a

/-! ## Expressions -/

namespace Descriptor

/-- The member for the arguments of an expression, if it has any. -/
def argumentMembers (as : List Argument) : Members :=
  if as.isEmpty then [] else [("args", .arr (as.map Argument.encode))]

theorem encode_eq (d : Descriptor) : d.encode = .obj (
    ("kind", .str "DataType") :: ("path", .str d.path) ::
      (argumentMembers d.args ++ d.flags.encode)) := by
  obtain ⟨path, args, flags⟩ := d
  cases args with
  | nil => rfl
  | cons a as => rw [encode, encodeArguments_eq]; rfl

theorem nodup_encode (as : List Argument) (f : Flags) :
    ("kind" :: "path" :: Members.keys (argumentMembers as ++ f.encode)).Nodup := by
  have args : (Members.keys (argumentMembers as)).Sublist ["args"] := by
    unfold argumentMembers
    split
    · exact List.nil_sublist _
    · exact .refl _
  have flags : (Members.keys f.encode).Sublist (Modifier.all.map Modifier.name) := by
    rw [Members.keys, Flags.encode, List.map_map]
    exact List.filter_sublist.map _
  have all : ("kind" :: "path" :: (["args"] ++ Modifier.all.map Modifier.name)).Nodup := by decide
  rw [Members.keys, List.map_append]
  exact all.sublist (((args.append flags).cons_cons "path").cons_cons "kind")

theorem settled_encode {d : Descriptor} (h : ∀ a ∈ d.args, a.encode.Settled) :
    d.encode.Settled := by
  rw [encode_eq, Json.settled_obj]
  refine ⟨nodup_encode d.args d.flags, fun m hm => ?_⟩
  simp only [List.mem_cons, List.mem_append] at hm
  rcases hm with rfl | rfl | hm | hm
  · rfl
  · rfl
  · unfold argumentMembers at hm
    split at hm
    · cases hm
    · obtain rfl := List.mem_singleton.1 hm
      refine Json.settled_arr.2 fun x hx => ?_
      obtain ⟨a, ha, rfl⟩ := List.mem_map.1 hx
      exact h a ha
  · obtain ⟨n, rfl⟩ := Flags.key_of_mem_encode hm
    rfl

/-- What is written of an expression is read as an expression with the same path and flags. -/
theorem decode_encode (d : Descriptor) :
    Descriptor.decode d.encode = .ok { d with args := d.args.map Argument.reread } := by
  obtain ⟨path, args, flags⟩ := d
  have others (p : DescriptorParts) : flags.encode.foldlM DescriptorParts.add p =
      .ok { p with others := p.others ++ flags.encode } :=
    foldlM_add_others p _ fun m hm => by
      obtain ⟨n, rfl⟩ := Flags.key_of_mem_encode hm
      cases n <;> decide
  have read : (argumentMembers args ++ flags.encode).foldlM DescriptorParts.add
      { tagged := true, path := some path } = .ok {
        tagged := true
        path := some path
        args := if args.isEmpty then none else some (args.map Argument.reread)
        others := flags.encode } := by
    cases args with
    | nil => exact others _
    | cons a as =>
      have step : DescriptorParts.add { tagged := true, path := some path }
          ("args", .arr ((a :: as).map Argument.encode)) = .ok {
            tagged := true
            path := some path
            args := some ((a :: as).map Argument.reread) } := by
        have arguments : ((a :: as).map Argument.encode).map decodeArgument =
            (a :: as).map Argument.reread := List.map_map
        rw [← arguments]
        rfl
      exact (congrArg (· >>= fun p => flags.encode.foldlM DescriptorParts.add p) step).trans
        (others _)
  have finished : (if args.isEmpty then none else some (args.map Argument.reread)).getD [] =
      args.map Argument.reread := by
    cases args <;> rfl
  rw [encode_eq, decode_obj]
  refine (congrArg (· >>= DescriptorParts.finish) read).trans ?_
  show (do
    let flags ← Flags.decodeFrom flags.encode [] {}
    return (⟨path, (if args.isEmpty then none else some (args.map Argument.reread)).getD [],
      flags⟩ : Descriptor)) = _
  rw [Flags.decodeFrom_encode, finished]
  rfl

theorem stable {d : Descriptor} (h : ∀ a ∈ d.args, a.Stable) : d.Stable := by
  obtain ⟨path, args, flags⟩ := d
  refine ⟨settled_encode fun a ha => (h a ha).1, ?_⟩
  rw [decode_encode, map_eq_self_iff.2 fun a ha => (h a ha).2]

/-- What is read of an expression is stable, if this holds of the values in it. -/
theorem stable_of_decode {d : Descriptor} (hv : v.Settled) (h : Descriptor.decode v = .ok d)
    (inner : ∀ x, x.depth < v.depth → x.Settled → (decodeArgument x).Stable) : d.Stable := by
  refine stable fun a ha => ?_
  rw [args_of_decode hv h] at ha
  obtain ⟨x, hx, rfl⟩ := List.mem_map.1 ha
  exact inner x (Json.depth_lt_of_mem_argumentItems hx) (Json.settled_of_mem_argumentItems hv hx)

end Descriptor

/-! ## References -/

theorem TypeRef.stable_of_decode {r : TypeRef} (hv : v.Settled) (h : TypeRef.decode v = .ok r)
    (inner : ∀ x, x.depth < v.depth → x.Settled → (decodeArgument x).Stable) : r.Stable := by
  cases r with
  | name n => exact ⟨rfl, rfl⟩
  | expr d =>
    obtain ⟨hs, hd⟩ := Descriptor.stable_of_decode hv (decode_expr h) inner
    exact ⟨hs, decode_of_expression hd⟩

/-! ## Fragments -/

namespace Fragment

/-- The members that a fragment is written with. -/
def encodeMembers (f : Fragment) : Members :=
  (f.dataType.map fun r => ("dataType", r.encode)).toList ++ f.keywords

theorem encode_eq (f : Fragment) : f.encode = .obj f.encodeMembers := by
  obtain ⟨dataType, keywords⟩ := f
  cases dataType <;> rfl

theorem stable {f : Fragment} (hs : (Json.obj f.keywords).Settled)
    (hk : "dataType" ∉ Members.keys f.keywords) (hr : ∀ r, f.dataType = some r → r.Stable) :
    f.Stable := by
  obtain ⟨dataType, keywords⟩ := f
  obtain ⟨hn, hs⟩ := Json.settled_obj.1 hs
  cases dataType with
  | none =>
    refine ⟨Json.settled_obj.2 ⟨hn, hs⟩, ?_⟩
    rw [encode, Fragment.decode_obj hn fun m hm _ => hs m hm, Members.get?_eq_none_iff.2 hk,
      Members.erase_of_not_mem hk]
    rfl
  | some r =>
    obtain ⟨hsettled, hread⟩ := hr r rfl
    have distinct : (Members.keys (("dataType", r.encode) :: keywords)).Nodup :=
      List.nodup_cons.2 ⟨hk, hn⟩
    constructor
    · refine Json.settled_obj.2 ⟨distinct, fun m hm => ?_⟩
      rcases List.mem_cons.1 hm with rfl | hm
      · exact hsettled
      · exact hs m hm
    · have erased : Members.erase (("dataType", r.encode) :: keywords) "dataType" = keywords :=
        (List.filter_cons_of_neg (by simp)).trans (Members.erase_of_not_mem hk)
      have kept : ∀ m ∈ ("dataType", r.encode) :: keywords, m.1 ≠ "dataType" → m.2.Settled :=
        fun m hm hne => hs m ((List.mem_cons.1 hm).resolve_left fun h => hne (by rw [h]))
      rw [encode, Fragment.decode_obj distinct kept, Members.get?_cons, if_pos rfl,
        TypeRef.read?_of_decode hread, erased]
      rfl

theorem stable_of_decode {f : Fragment} (hv : v.Settled) (h : Fragment.decode v = .ok f)
    (inner : ∀ x, x.depth < v.depth → x.Settled → (decodeArgument x).Stable) : f.Stable := by
  obtain ⟨ms, rfl, hr, hk⟩ := decode_eq_ok hv h
  obtain ⟨hn, hs⟩ := Json.settled_obj.1 hv
  refine stable ?_ ?_ fun r hf => ?_
  · rw [hk]
    exact Json.settled_obj.2
      ⟨Members.nodup_keys_filter _ hn, fun m hm => hs m (List.mem_filter.1 hm).1⟩
  · rw [hk, Members.keys_erase]
    simp
  · obtain ⟨w, hw, hread⟩ := TypeRef.read?_eq_some (hr.trans (congrArg Except.ok hf))
    have hmem := Members.mem_of_get? hw
    have deeper : w.depth < (Json.obj ms).depth := Json.depth_lt_of_mem_obj hmem
    exact TypeRef.stable_of_decode (hs _ hmem) hread fun x hx =>
      inner x (Nat.lt_trans hx deeper)

/-- **Writing a fragment changes nothing that an expression looks at.** -/
theorem decode_descriptor_encode {f : Fragment} (hv : v.Settled) (h : Fragment.decode v = .ok f) :
    Descriptor.decode f.encode = Descriptor.decode v := by
  obtain ⟨ms, rfl, -, hk⟩ := decode_eq_ok hv h
  rw [encode_eq]
  refine Descriptor.decode_congr ?_
  have dropped : ((f.dataType.map fun r => ("dataType", r.encode)).toList.filter
      fun m : String × Json => Descriptor.known m.1) = [] := by
    cases f.dataType <;> rfl
  rw [encodeMembers, List.filter_append, dropped, List.nil_append, hk, Members.erase,
    List.filter_filter]
  refine List.filter_congr fun m _ => ?_
  cases hm : Descriptor.known m.1 with
  | false => rfl
  | true =>
    have : m.1 ≠ "dataType" := fun h => absurd hm (by rw [h]; decide)
    simp [this]

end Fragment

/-! ## Arguments -/

/-- **What has been read of an argument is read again from what is written of it.** -/
theorem decodeArgument_stable (v : Json) (hv : v.Settled) : (decodeArgument v).Stable := by
  have inner : ∀ x, x.depth < v.depth → x.Settled → (decodeArgument x).Stable :=
    fun x _ hx => decodeArgument_stable x hx
  by_cases he : v.IsExpression
  · obtain ⟨d, hd⟩ := he
    obtain ⟨hs, hread⟩ := Descriptor.stable_of_decode hv hd inner
    rw [decodeArgument_of_expression hd]
    exact ⟨hs, decodeArgument_of_expression hread⟩
  by_cases hf : v.IsFragment
  · obtain ⟨f, hf⟩ := hf
    obtain ⟨hs, hread⟩ := Fragment.stable_of_decode hv hf inner
    -- An expression would be tried first, so what is written must not have become one.
    have none : ¬f.encode.IsExpression := by
      rwa [Json.IsExpression, Fragment.decode_descriptor_encode hv hf]
    rw [decodeArgument_of_fragment he hf]
    exact ⟨hs, decodeArgument_of_fragment none hread⟩
  · have literal : decodeArgument v = .literal v := by
      rw [decodeArgument_of_other he hf, hv]
    rw [literal]
    exact ⟨hv, literal⟩
termination_by v.depth

theorem TypeRef.stable_of_settled {r : TypeRef} (hv : v.Settled) (h : TypeRef.decode v = .ok r) :
    r.Stable :=
  stable_of_decode hv h fun x _ hx => decodeArgument_stable x hx

theorem Fragment.stable_of_settled {f : Fragment} (hv : v.Settled)
    (h : Fragment.decode v = .ok f) : f.Stable :=
  stable_of_decode hv h fun x _ hx => decodeArgument_stable x hx

end EntitySchema
