import EntitySchema.Proofs.Transparency

/-!
# What validators remember

Validators are shared: one may be used through several handles, and by checks of records and of
columns. What it remembers is its own last check all the same, whichever way it came
(`errors_describe_last_check`).

A `Ledger` follows the calls without looking at a cache. It notes what the validators that were
handed out are for, and which value was checked for which key. A session and its ledger stay
together (`Tracks`), because a check changes what is remembered under its own key and nothing else
(`Cache.Remembers.check`), and fetching a validator changes nothing
(`Cache.Remembers.getOrCompile`).
-/

namespace EntitySchema

/-! ## Caches and checks -/

theorem Validator.check_eq (x : Validator) (v : Json) :
    x.check v = if x.compiled.accepts v then none else some (x.entries v) := by
  split
  · next h => exact check_eq_none.2 h
  · next h =>
    rw [← check_eq_none, check] at h
    rw [check]
    split
    · next hnil => simp [hnil] at h
    · rfl

theorem Validator.check_of_validate {x : Validator} {v : Json} {r : Report}
    (h : x.validate v = .error r) : x.check v = some r.entries := by
  unfold validate at h
  cases hx : x.check v with
  | none =>
    rw [hx] at h
    cases h
  | some es =>
    rw [hx] at h
    obtain rfl := Except.error.inj h
    rfl

namespace Cache

variable {c : Cache} {checks : List (ValidatorKey × Json)} {key : ValidatorKey} {x : Validator}
  {h : Handle}

/-- What the validator for a key remembers. -/
def slot? (c : Cache) (key : ValidatorKey) : Option (Option (List Entry)) :=
  ((c.find? key).bind c.get?).map Tracked.last

/-- Every validator remembers the last check that was made for its key; `checks` lists the checks,
the last one first. -/
structure Remembers (c : Cache) (checks : List (ValidatorKey × Json)) : Prop where
  distinct : c.Distinct
  last : ∀ (h : Handle) (key : ValidatorKey) (t : Tracked), c.entries[h]? = some (key, t) →
    t.last = (checks.lookup key).bind t.validator.check
  known : ∀ key v, checks.lookup key = some v → key ∈ c.validators.map Prod.fst

theorem has_of_getElem? {t : Tracked} (he : c.entries[h]? = some (key, t)) :
    c.Has h key t.validator := by
  rw [Has, validators, List.getElem?_map, he]
  rfl

theorem find?_of_has (hc : c.Distinct) (hx : c.Has h key x) : c.find? key = some h := by
  cases hf : c.find? key with
  | none => exact absurd (List.mem_map_of_mem (List.mem_of_getElem? hx)) (not_mem_of_find? hf)
  | some h' =>
    obtain ⟨x', hx'⟩ := has_of_find? hf
    rw [(hc.eq_iff hx' hx).2 rfl]

namespace Remembers

theorem slot?_eq (hc : c.Remembers checks) (hx : c.Has h key x) :
    c.slot? key = some ((checks.lookup key).bind x.check) := by
  rw [Has, validators, List.getElem?_map] at hx
  obtain ⟨⟨key', t⟩, he, hentry⟩ := Option.map_eq_some_iff.1 hx
  obtain ⟨rfl, rfl⟩ := Prod.mk.inj hentry
  rw [slot?, find?_of_has hc.distinct (has_of_getElem? he), Option.bind_some, get?, he,
    ← hc.last h _ t he]
  rfl

theorem empty : Cache.empty.Remembers [] where
  distinct := List.nodup_nil
  last h key t he := by simp [Cache.empty] at he
  known key v hv := by cases hv

/-- Fetching a validator changes nothing; a new one has checked nothing yet. -/
theorem getOrCompile (hc : c.Remembers checks) (key : ValidatorKey)
    (compile : Unit → SchemaResult Validator) :
    (c.getOrCompile key compile).2.Remembers checks := by
  obtain ⟨h, -, hr⟩ | ⟨x, hf, -, hr⟩ | ⟨e, -, -, hr⟩ := c.getOrCompile_cases key compile
  · exact hr ▸ hc
  · rw [hr]
    refine ⟨(grows_add hf x).2 hc.distinct, fun h k t he => ?_, fun k v hv => ?_⟩
    · rw [add, List.getElem?_append] at he
      split at he
      · exact hc.last h k t he
      · obtain ⟨rfl, rfl⟩ := Prod.mk.inj (List.mem_singleton.1 (List.mem_of_getElem? he))
        have unchecked : checks.lookup k = none := Option.eq_none_iff_forall_ne_some.2
          fun v hv => not_mem_of_find? hf (hc.known k v hv)
        rw [unchecked]
        rfl
    · rw [validators_add, List.map_append]
      exact List.mem_append_left _ (hc.known k v hv)
  · exact hr ▸ hc

/-- **A check** is remembered under its key; what is remembered under other keys stays. -/
theorem check (hc : c.Remembers checks) (hx : c.Has h key x) (v : Json) :
    (c.check h v).Remembers ((key, v) :: checks) where
  distinct := (Grows.of_eq (validators_check c h v)).2 hc.distinct
  last h' key' t he := by
    rw [Cache.check, List.getElem?_modify] at he
    obtain ⟨⟨k, t'⟩, he', hentry⟩ := Option.map_eq_some_iff.1 he
    have same := hc.distinct.eq_iff hx (has_of_getElem? he')
    split at hentry
    · next hh =>
      obtain ⟨rfl, rfl⟩ := Prod.mk.inj hentry
      rw [same.1 hh, List.lookup_cons_self]
      rfl
    · next hh =>
      obtain ⟨rfl, rfl⟩ := Prod.mk.inj hentry
      have other : (k == key) = false := beq_eq_false_iff_ne.2 fun hk => hh (same.2 hk.symm)
      rw [List.lookup_cons, other]
      exact hc.last h' k t' he'
  known k v' hv := by
    rw [validators_check]
    rw [List.lookup_cons] at hv
    split at hv
    · next hk =>
      rw [beq_iff_eq.1 hk]
      exact List.mem_map_of_mem (List.mem_of_getElem? hx)
    · exact hc.known k v' hv

end Remembers

end Cache

theorem Model.build_of_buildProps {m : Model} {names : List String} {x : Validator}
    (h : m.buildProps names = .ok x) : m.build (.ofNames names) = .ok x := by
  unfold buildProps at h
  split at h
  · cases h
  · exact h

/-! ## Sessions and ledgers -/

/-- What can be done with a session: a call, or a look at what a validator that was handed out
remembers. -/
inductive Use where
  | call (c : Call)
  | errors (i : Nat)

namespace Session

/-- What a validator that was handed out remembers. -/
def errors (s : Session) (i : Nat) : Option (Option (List Entry)) :=
  (s.held[i]?.bind s.model.cache.get?).map Tracked.last

/-- The session after a use; a look changes nothing. -/
def use (s : Session) : Use → Session
  | .call c => (s.call c).2
  | .errors _ => s

end Session

theorem Session.steps_call (s : Session) (c : Call) : s.model.Steps (s.call c).2.model := by
  have receive (r : SchemaResult Handle × Model) : (s.receive r).2.model = r.2 := by
    unfold Session.receive
    split
    · rfl
    · split <;> rfl
  cases c with
  | prop name =>
    rw [call, receive]
    exact (Model.fetches_propValidator s.model name).steps
  | props names =>
    rw [call, receive]
    exact (Model.fetches_propsValidator s.model names).steps
  | validateProps v => exact Model.steps_validateProps s.model v
  | validateColumn name v => exact Model.steps_validateColumn s.model name v
  | isValid i v | validate i v =>
    cases hs : s.held[i]? with
    | none =>
      simp only [call, hs]
      exact .refl
    | some place =>
      simp only [call, hs, Cache.validate_snd]
      exact .single (.check place v)

/-- The report that a reply carries, if it says that a value failed. -/
def Reply.report? : Reply → Option Report
  | .checked (.error (.invalid r)) => some r
  | .validated (.error r) => some r
  | _ => none

/-- What is known of a run of calls without looking at a cache: what the validators that were handed
out are for, and which values were checked for which keys, the last one first. -/
structure Ledger where
  held : List ValidatorKey
  checks : List (ValidatorKey × Json)

namespace Ledger

/-- The key of the validator that a call hands out, if it does. -/
def handed? (m : Model) : Call → Option ValidatorKey
  | .prop name => (m.buildProp name).toOption.map fun _ => .prop name
  | .props names => (m.buildProps names).toOption.map fun _ => .ofNames names
  | _ => none

/-- The key and the value of the check that a call makes, if it makes one: it does not if there is
no validator, and for a record that is no object. -/
def check? (m : Model) (l : Ledger) : Call → Option (ValidatorKey × Json)
  | .validateProps (.obj ms) =>
    (m.buildProps (Members.keys ms)).toOption.map fun _ => (.ofNames (Members.keys ms), .obj ms)
  | .validateColumn name v => (m.build (.column name)).toOption.map fun _ => (.column name, v)
  | .isValid i v | .validate i v => l.held[i]?.map fun key => (key, v)
  | _ => none

def use (m : Model) (l : Ledger) : Use → Ledger
  | .call c => ⟨l.held ++ (handed? m c).toList, (l.check? m c).toList ++ l.checks⟩
  | .errors _ => l

theorem use_of_not_handed {m : Model} {c : Call} (h : handed? m c = none) (l : Ledger) :
    l.use m (.call c) = { l with checks := (l.check? m c).toList ++ l.checks } := by
  rw [use, h, Option.toList_none, List.append_nil]

end Ledger

/-- A session stands where a ledger stands. -/
structure Tracks (m : Model) (s : Session) (l : Ledger) : Prop where
  artifact : s.model.artifact = m.artifact
  faithful : s.model.Faithful
  held : List.Forall₂ (fun h key => ∃ x, s.model.cache.Has h key x) s.held l.held
  remembers : s.model.cache.Remembers l.checks

namespace Tracks

variable {m : Model} {s : Session} {l : Ledger} {key : ValidatorKey}
  {r : SchemaResult Handle × Model} {b : SchemaResult Validator}

/-- Steps of the model that keep what is remembered. -/
theorem steps {m' : Model} {checks : List (ValidatorKey × Json)} (h : Tracks m s l)
    (hm : s.model.Steps m') (hc : m'.cache.Remembers checks) :
    Tracks m { s with model := m' } { l with checks := checks } where
  artifact := hm.keeps.1.trans h.artifact
  faithful := hm.keeps.2 h.faithful
  held := h.held.imp fun _ _ ⟨x, hx⟩ => ⟨x, hx.grow hm.grows⟩
  remembers := hc

theorem remembers_of_fetches (h : Tracks m s l) (hr : s.model.Fetches key r) :
    r.2.cache.Remembers l.checks := by
  obtain ⟨e, rfl⟩ | ⟨schema, label, -, rfl⟩ := hr
  · exact h.remembers
  · exact h.remembers.getOrCompile key fun _ => Validator.compile schema label

/-- A validator is handed out if there is one. -/
theorem receive (h : Tracks m s l) (hr : s.model.Fetches key r) (hb : Model.Answers r b) :
    Tracks m (s.receive r).2 { l with held := l.held ++ (b.toOption.map fun _ => key).toList } := by
  have after := h.steps hr.steps (h.remembers_of_fetches hr)
  obtain ⟨result, m'⟩ := r
  cases b with
  | error e =>
    obtain rfl : result = .error e := hb
    show Tracks m _ { l with held := l.held ++ [] }
    rw [List.append_nil]
    exact after
  | ok x =>
    obtain ⟨place, t, rfl, ht, rfl⟩ := hb
    rw [s.receive_of_get? ht]
    exact ⟨after.artifact, after.faithful,
      List.rel_append after.held (.cons (hr.has rfl) .nil), after.remembers⟩

/-- A value is checked if there is a validator. -/
theorem checkWith (h : Tracks m s l) (hr : s.model.Fetches key r) (hb : Model.Answers r b)
    (v : Json) : Tracks m { s with model := (Model.checkWith r v).2 }
      { l with checks := (b.toOption.map fun _ => (key, v)).toList ++ l.checks } := by
  have after := h.remembers_of_fetches hr
  have steps := Model.steps_checkWith hr.steps v
  refine h.steps steps ?_
  obtain ⟨result, m'⟩ := r
  cases b with
  | error e =>
    obtain rfl : result = .error e := hb
    exact after
  | ok x =>
    obtain ⟨place, t, rfl, -, -⟩ := hb
    obtain ⟨x, hx⟩ := hr.has rfl
    show (m'.cache.validate place v).2.Remembers _
    rw [Cache.validate_snd]
    exact after.check hx v

/-- A validator that was handed out is in the cache under its key. -/
theorem held_at (h : Tracks m s l) (i : Nat) : (s.held[i]? = none ∧ l.held[i]? = none) ∨
    ∃ place key x, s.held[i]? = some place ∧ l.held[i]? = some key ∧
      s.model.cache.Has place key x := by
  refine (getElem?_of_forall₂ h.held i).imp_right ?_
  rintro ⟨place, key, hs, hl, x, hx⟩
  exact ⟨place, key, x, hs, hl, hx⟩

theorem check (h : Tracks m s l) {place : Handle} {x : Validator}
    (hx : s.model.cache.Has place key x) (v : Json) :
    Tracks m { s with model := { s.model with cache := s.model.cache.check place v } }
      { l with checks := (key, v) :: l.checks } :=
  h.steps (.single (.check place v)) (h.remembers.check hx v)

/-- **One use** of a session. -/
theorem use (h : Tracks m s l) (u : Use) : Tracks m (s.use u) (l.use m u) := by
  obtain ⟨artifact, cache⟩ := m
  -- What can be built depends on nothing but the entity, which is the same.
  obtain rfl : s.model.artifact = artifact := h.artifact
  cases u with
  | errors i => exact h
  | call c =>
    cases c with
    | prop name =>
      exact h.receive (Model.fetches_propValidator s.model name)
        (Model.answers_propValidator h.faithful name)
    | props names =>
      exact h.receive (Model.fetches_propsValidator s.model names)
        (Model.answers_propsValidator h.faithful names)
    | validateProps v =>
      rw [Ledger.use_of_not_handed rfl]
      cases v with
      | obj ms =>
        exact h.checkWith (Model.fetches_propsValidator s.model (Members.keys ms))
          (Model.answers_propsValidator h.faithful (Members.keys ms)) (.obj ms)
      | _ => exact h
    | validateColumn name v =>
      have after := h.checkWith (Model.fetches_columnValidator s.model name)
        (Model.answers_columnValidator h.faithful name) v
      rw [← Model.validateColumn_eq_checkWith] at after
      rw [Ledger.use_of_not_handed rfl]
      exact after
    | isValid i v | validate i v =>
      rw [Ledger.use_of_not_handed rfl]
      obtain ⟨hs, hl⟩ | ⟨place, key, x, hs, hl, hx⟩ := h.held_at i
      · simp only [Session.use, Session.call, Ledger.check?, hs, hl]
        exact h
      · simp only [Session.use, Session.call, Ledger.check?, hs, hl, Cache.validate_snd]
        exact h.check hx v

/-- **All uses** of a session. -/
theorem run (h : Tracks m s l) (uses : List Use) :
    Tracks m (uses.foldl Session.use s) (uses.foldl (Ledger.use m) l) := by
  induction uses generalizing s l with
  | nil => exact h
  | cons u rest ih => exact ih (h.use u)

/-- What is in the cache under a key is what is built for the key. -/
theorem build_of_has (h : Tracks m s l) {place : Handle} {x : Validator}
    (hx : s.model.cache.Has place key x) : m.build key = .ok x := by
  obtain ⟨artifact, cache⟩ := m
  obtain rfl : s.model.artifact = artifact := h.artifact
  obtain ⟨source, hsource, hcompile⟩ := h.faithful _ (List.mem_of_getElem? hx)
  show s.model.build key = .ok x
  rw [Model.build_eq hsource, hcompile]
  rfl

/-- A key that was checked has a validator, which remembers the last check. -/
theorem slot?_of_checked (h : Tracks m s l) {v : Json} (hv : l.checks.lookup key = some v) :
    ∃ x, m.build key = .ok x ∧ s.model.cache.slot? key = some (x.check v) := by
  obtain ⟨y, hy, rfl⟩ := List.mem_map.1 (h.remembers.known key v hv)
  obtain ⟨place, hplace⟩ := List.mem_iff_getElem?.1 hy
  refine ⟨y.2, h.build_of_has hplace, ?_⟩
  rw [h.remembers.slot?_eq hplace, hv]
  rfl

/-- The report of a call that makes a check has the entries of the check. -/
theorem entries_of_report (h : Tracks m s l) {c : Call} {v : Json} {r : Report}
    (hv : l.check? m c = some (key, v)) (hr : (s.call c).1.report? = some r) :
    ∃ x, m.build key = .ok x ∧ x.check v = some r.entries := by
  have track := h
  obtain ⟨artifact, cache⟩ := m
  obtain rfl : s.model.artifact = artifact := h.artifact
  -- A report comes from the validator that was built for the key.
  have reported {x : Validator} (hx : (Reply.checked
      (Model.checkAnew (.ok x) v)).report? = some r) : x.check v = some r.entries := by
    refine Validator.check_of_validate ?_
    cases hvalidate : x.validate v with
    | ok _ =>
      rw [Model.checkAnew, hvalidate] at hx
      cases hx
    | error r' =>
      rw [Model.checkAnew, hvalidate] at hx
      exact congrArg Except.error (Option.some.inj hx)
  cases c with
  | prop name => cases hv
  | props names => cases hv
  | validateProps w =>
    cases w with
    | obj ms =>
      obtain ⟨x, hx, hkey⟩ := Option.map_eq_some_iff.1 hv
      obtain ⟨rfl, rfl⟩ := Prod.mk.inj hkey
      have built : s.model.buildProps (Members.keys ms) = .ok x := toOption_eq_some.1 hx
      refine ⟨x, Model.build_of_buildProps built, reported ?_⟩
      rw [← built, ← hr]
      exact congrArg (fun o => (Reply.checked o).report?)
        (Model.validateProps_fst h.faithful (.obj ms)).symm
    | _ => cases hv
  | validateColumn name w =>
    obtain ⟨x, hx, hkey⟩ := Option.map_eq_some_iff.1 hv
    obtain ⟨rfl, rfl⟩ := Prod.mk.inj hkey
    have built : s.model.build (.column name) = .ok x := toOption_eq_some.1 hx
    refine ⟨x, built, reported ?_⟩
    rw [← built, ← hr]
    exact congrArg (fun o => (Reply.checked o).report?)
      (Model.validateColumn_fst h.faithful name w).symm
  | isValid i w =>
    obtain ⟨hs, hl⟩ | ⟨place, key', x, hs, hl, hx⟩ := h.held_at i
    · simp [Ledger.check?, hl] at hv
    · obtain ⟨t, ht, -⟩ := hx.get?
      simp only [Session.call, hs, Cache.get?_check ht] at hr
      cases hr
  | validate i w =>
    obtain ⟨hs, hl⟩ | ⟨place, key', x, hs, hl, hx⟩ := h.held_at i
    · simp [Ledger.check?, hl] at hv
    · obtain ⟨rfl, rfl⟩ : key' = key ∧ w = v := by simpa [Ledger.check?, hl] using hv
      refine ⟨x, track.build_of_has hx, Validator.check_of_validate ?_⟩
      obtain ⟨t, ht, rfl⟩ := hx.get?
      simp only [Session.call, hs, Cache.validate_eq ht] at hr
      cases hvalidate : t.validator.validate w with
      | ok _ =>
        rw [hvalidate] at hr
        cases hr
      | error r' =>
        rw [hvalidate] at hr
        exact congrArg Except.error (Option.some.inj hr)

/-- What a validator that was handed out remembers. -/
theorem errors_eq (h : Tracks m s l) {i : Nat} (hl : l.held[i]? = some key) :
    ∃ x, m.build key = .ok x ∧ s.errors i = s.model.cache.slot? key ∧
      s.errors i = some ((l.checks.lookup key).bind x.check) := by
  obtain ⟨-, none⟩ | ⟨place, key', x, hs, hl', hx⟩ := h.held_at i
  · cases hl.symm.trans none
  · obtain rfl : key' = key := Option.some.inj (hl'.symm.trans hl)
    have slot : s.errors i = s.model.cache.slot? key' := by
      rw [Session.errors, hs, Cache.slot?, Cache.find?_of_has h.remembers.distinct hx]
    exact ⟨x, h.build_of_has hx, slot, slot.trans (h.remembers.slot?_eq hx)⟩

/-- **A check under another key** changes nothing. -/
theorem slot?_of_other (h : Tracks m s l) {c : Call} (hslot : s.model.cache.slot? key ≠ none)
    (other : ∀ v, l.check? m c ≠ some (key, v)) :
    (s.call c).2.model.cache.slot? key = s.model.cache.slot? key := by
  have after : Tracks m (s.call c).2 (l.use m (.call c)) := h.use (.call c)
  obtain ⟨place, hf⟩ : ∃ place, s.model.cache.find? key = some place := by
    cases hf : s.model.cache.find? key with
    | none => exact absurd (by rw [Cache.slot?, hf]; rfl) hslot
    | some place => exact ⟨place, rfl⟩
  obtain ⟨x, hx⟩ := Cache.has_of_find? hf
  rw [h.remembers.slot?_eq hx, after.remembers.slot?_eq (hx.grow (s.steps_call c).grows)]
  have same : (l.use m (.call c)).checks.lookup key = l.checks.lookup key := by
    rw [Ledger.use]
    cases hcheck : l.check? m c with
    | none => rfl
    | some check =>
      have ne : (key == check.1) = false := beq_eq_false_iff_ne.2 fun hk =>
        other check.2 (by rw [hcheck, hk])
      show List.lookup key (check :: l.checks) = _
      rw [List.lookup_cons, ne]
  rw [same]

/-- **A check that fails** reports what is remembered. -/
theorem slot?_of_report (h : Tracks m s l) {c : Call} {v : Json} {r : Report}
    (hcheck : l.check? m c = some (key, v)) (hr : (s.call c).1.report? = some r) :
    (s.call c).2.model.cache.slot? key = some (some r.entries) := by
  have after : Tracks m (s.call c).2 (l.use m (.call c)) := h.use (.call c)
  obtain ⟨x, hx, entries⟩ := h.entries_of_report hcheck hr
  have checked : (l.use m (.call c)).checks.lookup key = some v := by
    rw [Ledger.use, hcheck]
    exact List.lookup_cons_self
  obtain ⟨y, hy, slot⟩ := after.slot?_of_checked checked
  obtain rfl : y = x := Except.ok.inj (hy.symm.trans hx)
  rw [slot, entries]

end Tracks

/-- **Validators remember their own last check.** Whatever was done with a model, the errors of a
validator that was handed out are those of the last value that was checked with it, through any
handle or by a check of a record or a column: none if there was no check or the value passed, and
otherwise all entries for the value. A call that makes no check under a key leaves what is
remembered under the key as it was. If a check fails, then the report has the very entries that are
remembered afterwards. -/
theorem errors_describe_last_check {c : Compiler} {e : Entity} {m : Model} (h : c.define e = .ok m)
    (uses : List Use) :
    let s := uses.foldl Session.use ⟨m, []⟩
    let l := uses.foldl (Ledger.use m) ⟨[], []⟩
    s.held.length = l.held.length ∧
    (∀ i key, l.held[i]? = some key → ∃ x, m.build key = .ok x ∧
      s.errors i = s.model.cache.slot? key ∧
      s.errors i = some (match l.checks.lookup key with
        | none => none
        | some v => if x.compiled.accepts v then none else some (x.entries v))) ∧
    (∀ call key, s.model.cache.slot? key ≠ none → (∀ v, l.check? m call ≠ some (key, v)) →
      (s.call call).2.model.cache.slot? key = s.model.cache.slot? key) ∧
    ∀ call key v r, l.check? m call = some (key, v) → (s.call call).1.report? = some r →
      (s.call call).2.model.cache.slot? key = some (some r.entries) := by
  intro s l
  have start : Tracks m ⟨m, []⟩ ⟨[], []⟩ := by
    refine ⟨rfl, Compiler.faithful_of_define h, .nil, ?_⟩
    obtain ⟨a, -, rfl⟩ := Compiler.define_eq_ok.1 h
    exact .empty
  have tracks : Tracks m s l := start.run uses
  refine ⟨tracks.held.length_eq, fun i key hl => ?_, fun call key => tracks.slot?_of_other,
    fun call key v r => tracks.slot?_of_report⟩
  obtain ⟨x, hx, slot, last⟩ := tracks.errors_eq hl
  refine ⟨x, hx, slot, last.trans ?_⟩
  cases l.checks.lookup key with
  | none => rfl
  | some v => exact congrArg some (x.check_eq v)

/-- A validator of a property refuses `5`; then the column of the property is checked. -/
def Use.refused : List Use := [.call (.prop "p"), .call (.validate 0 (.num (.int 5))),
  .call (.validateColumn "p" (.str "a")), .errors 0]

theorem refused_value_is_remembered : ∃ m x,
    Compiler.standard.define (.withString "minProperties" (.num (.int 1))) = .ok m ∧
    m.build (.prop "p") = .ok x ∧ x.compiled.accepts (.num (.int 5)) = false ∧
    (Use.refused.foldl Session.use ⟨m, []⟩).errors 0 = some (some (x.entries (.num (.int 5)))) := by
  have run : (Compiler.standard.define (.withString "minProperties"
      (.num (.int 1)))).toOption.map (fun m =>
        ((Use.refused.foldl (Ledger.use m) ⟨[], []⟩).held[0]?,
          (Use.refused.foldl (Ledger.use m) ⟨[], []⟩).checks.lookup (.prop "p"),
          (m.build (.prop "p")).toOption.map (·.compiled.accepts (.num (.int 5))))) =
      some (some (.prop "p"), some (.num (.int 5)), some false) := by
    decide +kernel
  obtain ⟨m, hm, answers⟩ := Option.map_eq_some_iff.1 run
  obtain ⟨held, answers⟩ := Prod.mk.inj answers
  obtain ⟨checked, refused⟩ := Prod.mk.inj answers
  obtain ⟨-, errors, -⟩ := errors_describe_last_check (toOption_eq_some.1 hm) Use.refused
  obtain ⟨x, hx, -, last⟩ := errors 0 _ held
  rw [hx] at refused
  have refuses : x.compiled.accepts (.num (.int 5)) = false := Option.some.inj refused
  refine ⟨m, x, toOption_eq_some.1 hm, hx, refuses, last.trans ?_⟩
  simp [checked, refuses]

end EntitySchema
