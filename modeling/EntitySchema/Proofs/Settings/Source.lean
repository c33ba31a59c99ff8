import EntitySchema.Proofs.TypeExpr.Stability
import EntitySchema.Settings.Reader

/-!
# Schemas that come with settings

Settings are read from a Json value, in which no object repeats a key, or from a text. Either way
the schemas in them are stable (`Settings.Source.stable`): written, and read again, they are the
same. For a text this asks of their storage types what holds of a value without saying so, since in
a text the arguments of an expression may repeat keys.
-/

namespace EntitySchema

variable {s t : Settings} {v : Json}

/-- The members of a fragment beside its storage type, as they come from reading one. -/
def AreKeywords (ms : Members) : Prop :=
  (Json.obj ms).Settled ∧ "dataType" ∉ Members.keys ms

theorem areKeywords_nil : AreKeywords [] := ⟨rfl, List.not_mem_nil⟩

theorem AreKeywords.insert {ms : Members} {k : String} (h : AreKeywords ms) (hk : k ≠ "dataType")
    (hv : v.Settled) : AreKeywords (Members.insert ms k v) := by
  obtain ⟨hn, hs⟩ := Json.settled_obj.1 h.1
  refine ⟨Json.settled_obj.2 ⟨Members.nodup_keys_insert hn, fun m hm => ?_⟩, fun hmem => ?_⟩
  · rcases Members.mem_of_mem_insert hm with rfl | hm
    · exact hv
    · exact hs m hm
  · rcases Members.mem_keys_insert.1 hmem with hk' | hmem
    · exact hk hk'.symm
    · exact h.2 hmem

namespace Settings

open Json (Cursor)

/-! ## From a value -/

/-- All schemas that come with settings have a property. -/
def Schemas (s : Settings) (P : Fragment → Prop) : Prop := ∀ f ∈ s.extraSchemas, P f.2

theorem schemas_of_decodeField {field : Field} {P : Fragment → Prop} (hs : s.Schemas P)
    (hP : ∀ ms, v = .obj ms → ∀ m ∈ ms, ∀ f, Fragment.decode m.2 = .ok f → P f)
    (h : s.decodeField field v = .ok t) : t.Schemas P := by
  cases field with
  | dialect =>
    obtain ⟨d, -, h⟩ := bind_eq_ok.1 h
    cases h
    exact hs
  | jsonType =>
    obtain ⟨d, -, h⟩ := bind_eq_ok.1 h
    cases h
    exact hs
  | customTypes =>
    obtain ⟨ms, -, h⟩ := bind_eq_ok.1 h
    obtain ⟨types, -, h⟩ := bind_eq_ok.1 h
    cases h
    exact hs
  | schemaDir =>
    obtain ⟨d, -, h⟩ := bind_eq_ok.1 h
    cases h
    exact hs
  | extraSchemas =>
    obtain ⟨ms, hms, h⟩ := bind_eq_ok.1 h
    obtain ⟨schemas, hschemas, h⟩ := bind_eq_ok.1 h
    cases h
    have hv : v = .obj ms := by
      cases v <;> cases hms
      rfl
    intro f hf
    obtain ⟨m, hm, -, hread⟩ := Members.mem_of_mapM hschemas (Members.mem_of_mem_ofList hf)
    exact hP ms hv m hm f.2 hread

theorem stable_of_decode (hv : v.Settled) (h : decode v = .ok s) : s.Schemas Fragment.Stable := by
  have step {s t : Settings} {field : Field} {w : Json} (hw : w.Settled)
      (hs : s.Schemas Fragment.Stable) (h : s.decodeField field w = .ok t) :
      t.Schemas Fragment.Stable :=
    schemas_of_decodeField hs (fun ms hms m hm f hread =>
      Fragment.stable_of_settled ((Json.settled_obj.1 (hms ▸ hw)).2 m hm) hread) h
  have start : Settings.Schemas {} Fragment.Stable := nofun
  cases v with
  | obj ms =>
    refine foldlM_induction (P := (Settings.Schemas · Fragment.Stable))
      (fun m hm s t hs hadd => ?_) start h
    split at hadd
    · exact step ((Json.settled_obj.1 hv).2 m hm) hs hadd
    · cases hadd
      exact hs
  | arr vs =>
    obtain ⟨t, ht, h⟩ := bind_eq_ok.1 h
    split at h
    · cases h
      refine foldlM_induction (P := (Settings.Schemas · Fragment.Stable))
        (fun m hm s t hs hadd => step ?_ hs hadd) start ht
      exact Json.settled_arr.1 hv m.2 (List.of_mem_zip hm).2
    · cases h
  | _ => cases h

/-! ## From a text -/

section
variable {depth fuel : Nat} {first : Bool} {c c' : Cursor}

theorem areKeywords_of_readFragmentMembers {p q : FragmentParts} (hp : AreKeywords p.keywords)
    (h : readFragmentMembers depth fuel first p c = .ok (q, c')) : AreKeywords q.keywords := by
  induction fuel generalizing first p c with
  | zero => cases h
  | succ fuel ih =>
    rw [readFragmentMembers] at h
    obtain ⟨⟨more, c₁⟩, -, h⟩ := bind_eq_ok.1 h
    dsimp only at h
    split at h
    · obtain ⟨⟨k, c₂⟩, -, h⟩ := bind_eq_ok.1 h
      dsimp only at h
      split at h
      · split at h
        · cases h
        · obtain ⟨c₃, -, h⟩ := bind_eq_ok.1 h
          obtain ⟨⟨r, c₄⟩, -, h⟩ := bind_eq_ok.1 h
          dsimp only at h
          split at h
          · exact ih (show AreKeywords { p with dataType := some _ }.keywords from hp) h
          · cases h
      · next hk =>
        obtain ⟨c₃, -, h⟩ := bind_eq_ok.1 h
        obtain ⟨⟨w, c₄⟩, -, h⟩ := bind_eq_ok.1 h
        exact ih (hp.insert hk (Json.settled_settle w)) h
    · cases h
      exact hp

theorem wrongKind_ne_ok {α : Type} {expected : Shape} {r : α} :
    wrongKind c expected ≠ .ok r := by
  intro h
  unfold wrongKind at h
  dsimp only at h
  split at h
  · cases h
  · cases h
  · obtain ⟨r, -, h⟩ := bind_eq_ok.1 h
    cases h

theorem areKeywords_of_readFragment {f : Fragment} (h : readFragment depth c = .ok (f, c')) :
    AreKeywords f.keywords := by
  unfold readFragment at h
  dsimp only at h
  split at h
  · split at h
    · cases h
    · obtain ⟨⟨p, c₁⟩, hp, h⟩ := bind_eq_ok.1 h
      cases h
      exact areKeywords_of_readFragmentMembers areKeywords_nil hp
  · exact absurd h wrongKind_ne_ok

theorem exists_of_mem_readEntries {α : Type} {read : Cursor → Except TextFault (α × Cursor)}
    {entries : List (String × α)} (h : readEntries read fuel first c = .ok (entries, c'))
    {m : String × α} (hm : m ∈ entries) : ∃ d d', read d = .ok (m.2, d') := by
  induction fuel generalizing first c entries c' with
  | zero => cases h
  | succ fuel ih =>
    rw [readEntries] at h
    obtain ⟨⟨more, c₁⟩, -, h⟩ := bind_eq_ok.1 h
    dsimp only at h
    split at h
    · obtain ⟨⟨k, c₂⟩, -, h⟩ := bind_eq_ok.1 h
      obtain ⟨c₃, -, h⟩ := bind_eq_ok.1 h
      obtain ⟨⟨a, c₄⟩, ha, h⟩ := bind_eq_ok.1 h
      obtain ⟨⟨rest, c₅⟩, hrest, h⟩ := bind_eq_ok.1 h
      cases h
      rcases List.mem_cons.1 hm with rfl | hm
      · exact ⟨c₃, c₄, ha⟩
      · exact ih hrest hm
    · cases h
      cases hm

theorem exists_of_mem_readMap {α : Type} {read : Nat → Cursor → Except TextFault (α × Cursor)}
    {entries : List (String × α)} (h : readMap read depth c = .ok (entries, c'))
    {m : String × α} (hm : m ∈ entries) : ∃ n d d', read n d = .ok (m.2, d') := by
  unfold readMap at h
  dsimp only at h
  split at h
  · split at h
    · cases h
    · obtain ⟨⟨found, c₁⟩, hfound, h⟩ := bind_eq_ok.1 h
      cases h
      exact ⟨_, exists_of_mem_readEntries hfound (Members.mem_of_mem_ofList hm)⟩
  · exact absurd h wrongKind_ne_ok

/-- The keywords of a schema are as one reads them. -/
def WellRead (s : Settings) : Prop := s.Schemas fun f => AreKeywords f.keywords

theorem wellRead_of_readField {field : Field} (hs : s.WellRead)
    (h : readField depth s field c = .ok (t, c')) : t.WellRead := by
  cases field with
  | extraSchemas =>
    obtain ⟨⟨schemas, c₁⟩, hschemas, h⟩ := bind_eq_ok.1 h
    cases h
    intro f hf
    obtain ⟨n, d, d', hread⟩ := exists_of_mem_readMap hschemas hf
    exact areKeywords_of_readFragment hread
  | _ =>
    obtain ⟨⟨d, c₁⟩, -, h⟩ := bind_eq_ok.1 h
    cases h
    exact hs

theorem wellRead_of_readMembers {seen : List Field} (hs : s.WellRead)
    (h : readMembers depth fuel first seen s c = .ok (t, c')) : t.WellRead := by
  induction fuel generalizing first seen s c with
  | zero => cases h
  | succ fuel ih =>
    rw [readMembers] at h
    obtain ⟨⟨more, c₁⟩, -, h⟩ := bind_eq_ok.1 h
    dsimp only at h
    split at h
    · obtain ⟨⟨k, c₂⟩, -, h⟩ := bind_eq_ok.1 h
      dsimp only at h
      split at h
      · split at h
        · cases h
        · obtain ⟨c₃, -, h⟩ := bind_eq_ok.1 h
          obtain ⟨⟨u, c₄⟩, hu, h⟩ := bind_eq_ok.1 h
          exact ih (wellRead_of_readField hs hu) h
      · obtain ⟨c₃, -, h⟩ := bind_eq_ok.1 h
        obtain ⟨c₄, -, h⟩ := bind_eq_ok.1 h
        exact ih hs h
    · cases h
      exact hs

theorem wellRead_of_readItems {fields : List Field} (hs : s.WellRead)
    (h : readItems depth fields first s c = .ok (t, c')) : t.WellRead := by
  induction fields generalizing first s c with
  | nil =>
    cases h
    exact hs
  | cons field rest ih =>
    rw [readItems] at h
    obtain ⟨⟨more, c₁⟩, -, h⟩ := bind_eq_ok.1 h
    dsimp only at h
    split at h
    · obtain ⟨⟨u, c₂⟩, hu, h⟩ := bind_eq_ok.1 h
      exact ih (wellRead_of_readField hs hu) h
    · cases h
      exact hs

theorem wellRead_of_parse {text : String} (h : parse text = .ok s) : s.WellRead := by
  have start : Settings.WellRead {} := nofun
  obtain ⟨⟨t, c⟩, ht, h⟩ := bind_eq_ok.1 h
  obtain ⟨u, -, h⟩ := bind_eq_ok.1 h
  cases h
  unfold readSettings at ht
  dsimp only at ht
  split at ht
  · split at ht
    · cases ht
    · obtain ⟨⟨u, c₁⟩, hu, ht⟩ := bind_eq_ok.1 ht
      obtain ⟨c₂, -, ht⟩ := bind_eq_ok.1 ht
      cases ht
      exact wellRead_of_readItems start hu
  · split at ht
    · cases ht
    · obtain ⟨⟨u, c₁⟩, hu, ht⟩ := bind_eq_ok.1 ht
      cases ht
      exact wellRead_of_readMembers start hu
  · exact absurd ht wrongKind_ne_ok

end

/-! ## Either way -/

/-- Where settings come from: a Json value, in which no object repeats a key, or a text. In a text
the storage types of schemas must be stable. -/
inductive Source (s : Settings) : Prop where
  | value {v : Json} (settled : v.Settled) (h : decode v = .ok s)
  | text {text : String} (h : parse text = .ok s)
      (types : s.Schemas fun f => ∀ r, f.dataType = some r → r.Stable)

theorem Source.stable (h : s.Source) : s.Schemas Fragment.Stable := by
  cases h with
  | value settled h => exact stable_of_decode settled h
  | text h types =>
    intro f hf
    obtain ⟨settled, apart⟩ := wellRead_of_parse h f hf
    exact Fragment.stable settled apart (types f hf)

/-- The schemas that are always there are stable too. -/
theorem Source.stable_shared (h : s.Source) {f : String × Fragment} (hf : f ∈ s.shared) :
    f.2.Stable := by
  rcases Members.mem_of_mem_insertAll hf with hf | hf
  · obtain rfl := List.mem_singleton.1 hf
    exact ⟨rfl, rfl⟩
  · exact h.stable f hf

end Settings

end EntitySchema
