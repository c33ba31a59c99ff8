import EntitySchema.Proofs.Entity.Compilation
import EntitySchema.Proofs.Requests
import EntitySchema.Proofs.Validation.Keys

/-!
# Models without their caches

A model with a cache answers like one that compiles a validator anew for every call
(`cache_is_transparent`). The two are run side by side (`Session`, `Reference`): the validators that
the session was handed are places in its cache, the reference has the validators themselves. After
every call the places lead to validators equal to those of the reference (`Mirrors`), since what is
in the cache is what compiling gives (`Model.answers_fetch`) and never moves (`Cache.Grows`).

The cache does show in one way: asking twice for the same thing gives the same validator. It is the
same just when the kind and the name or the set of names are the same, because no key has two
validators in a cache and the key of a set of names depends on nothing but the set.
-/

namespace EntitySchema

namespace Model

section
variable {m m' : Model} {key : ValidatorKey} {schema : Json} {label : Option String}

theorem Step.grows (step : m.Step m') : m.cache.Grows m'.cache := by
  cases step with
  | check h v => exact .of_eq (Cache.validators_check ..)
  | @fetch key schema label _ =>
    exact m.cache.grows_getOrCompile key fun _ => Validator.compile schema label

theorem Steps.grows (steps : m.Steps m') : m.cache.Grows m'.cache := by
  induction steps with
  | refl => exact .refl _
  | tail _ step ih => exact ih.trans step.grows

/-! ## Validators compiled anew -/

/-- The validator for a key, compiled anew; the cache plays no part. -/
def build (m : Model) (key : ValidatorKey) : SchemaResult Validator :=
  m.sourceOf key >>= fun source =>
    (Validator.compile source.1 source.2).mapError (·.inEntity m.name)

def buildProp (m : Model) (name : String) : SchemaResult Validator :=
  if name.isEmpty then fail (.emptyArguments "prop_validator") else m.build (.prop name)

def buildProps (m : Model) (names : List String) : SchemaResult Validator :=
  if names.isEmpty then fail (.emptyArguments "props_validator") else m.build (.ofNames names)

/-- Checks a value with a validator that was compiled for it. -/
def checkAnew (b : SchemaResult Validator) (v : Json) : Except CheckError Unit :=
  match b with
  | .ok x => (x.validate v).mapError .invalid
  | .error e => .error (.schema e)

/-- Checks a record with a validator for the properties it has. -/
def checkRecord (m : Model) (v : Json) : Except CheckError Unit :=
  match v with
  | .obj ms => checkAnew (m.buildProps (Members.keys ms)) v
  | v => .error (.invalid (.ofMessage (m.instanceName ++ " expected an object, got " ++ v.text)))

def checkColumn (m : Model) (name : String) (v : Json) : Except CheckError Unit :=
  checkAnew (m.build (.column name)) v

/-- A request for a validator has the answer that compiling one has. -/
def Answers (r : SchemaResult Handle × Model) : SchemaResult Validator → Prop
  | .ok x => Grants r x
  | .error e => r.1 = .error e

theorem build_eq (hs : m.sourceOf key = .ok (schema, label)) :
    m.build key = (Validator.compile schema label).mapError (·.inEntity m.name) := by
  rw [build, hs]
  rfl

theorem answers_fetch (hm : m.Faithful) (hs : m.sourceOf key = .ok (schema, label)) :
    Answers (m.fetch key schema label) (m.build key) := by
  rw [build_eq hs]
  cases hx : Validator.compile schema label with
  | ok x => exact grants_fetch hm hs hx
  | error e =>
    show (m.fetch key schema label).1 = .error (e.inEntity m.name)
    obtain ⟨h, hf, -⟩ | ⟨x, -, hx', -⟩ | ⟨e', -, hx', hr⟩ := m.fetch_cases key schema label
    · -- A validator in the cache was compiled from the same source, which cannot be compiled.
      obtain ⟨t, -, hmem⟩ := Cache.get?_of_find? hf
      obtain ⟨source, hsource, hcompile⟩ := hm _ hmem
      obtain rfl : source = (schema, label) := Except.ok.inj (hsource.symm.trans hs)
      cases hcompile.symm.trans hx
    · cases hx'.symm.trans hx
    · obtain rfl : e' = e := Except.error.inj (hx'.symm.trans hx)
      rw [hr]

theorem checkWith_of_answers {r : SchemaResult Handle × Model} {b : SchemaResult Validator}
    (h : Answers r b) (v : Json) : (checkWith r v).1 = checkAnew b v := by
  cases b with
  | ok x => exact checkWith_of_grants h v
  | error e =>
    obtain ⟨a, m'⟩ := r
    obtain rfl : a = .error e := h
    rfl

theorem answers_propValidator (hm : m.Faithful) (name : String) :
    Answers (m.propValidator name) (m.buildProp name) := by
  unfold propValidator buildProp
  split
  · exact rfl
  · cases hs : m.schemaOf name with
    | ok schema => exact answers_fetch hm (sourceOf_prop hs)
    | error e =>
      rw [build, sourceOf, hs]
      exact rfl

theorem answers_propsValidator (hm : m.Faithful) (names : List String) :
    Answers (m.propsValidator names) (m.buildProps names) := by
  unfold propsValidator buildProps
  split
  · exact rfl
  · dsimp only
    cases hs : m.schemasOf (ValidatorKey.ofNames names).names with
    | ok schemas => exact answers_fetch hm (sourceOf_props hs)
    | error e =>
      have none : m.sourceOf (.ofNames names) = .error e := by
        rw [ValidatorKey.ofNames_eq, sourceOf]
        rw [show (ValidatorKey.ofNames names).names = ValidatorKey.sorted names from rfl] at hs
        rw [hs]
        rfl
      rw [build, none]
      exact rfl

theorem answers_columnValidator (hm : m.Faithful) (name : String) :
    Answers (m.columnValidator name) (m.build (.column name)) := by
  unfold columnValidator
  cases hs : m.schemaOf name with
  | ok schema => exact answers_fetch hm (sourceOf_column hs)
  | error e =>
    rw [build, sourceOf, hs]
    exact rfl

theorem validateProps_fst (hm : m.Faithful) (v : Json) :
    (m.validateProps v).1 = m.checkRecord v := by
  cases v with
  | obj ms => exact checkWith_of_answers (answers_propsValidator hm (Members.keys ms)) _
  | _ => rfl

theorem validateColumn_fst (hm : m.Faithful) (name : String) (v : Json) :
    (m.validateColumn name v).1 = m.checkColumn name v := by
  rw [validateColumn_eq_checkWith]
  exact checkWith_of_answers (answers_columnValidator hm name) v

end

/-! ## Which validator is granted -/

/-- What a validator can be asked for. -/
inductive Subject where
  | prop (name : String)
  | props (names : List String)
  | column (name : String)

namespace Subject

/-- The same kind, with the same name or the same set of names. -/
def Same : Subject → Subject → Prop
  | .prop name, .prop other => name = other
  | .props names, .props others => ∀ name, name ∈ names ↔ name ∈ others
  | .column name, .column other => name = other
  | _, _ => False

def key : Subject → ValidatorKey
  | .prop name => .prop name
  | .props names => .ofNames names
  | .column name => .column name

theorem key_eq_iff {s s' : Subject} : s.key = s'.key ↔ s.Same s' := by
  cases s with
  | prop name => cases s' <;> simp [key, Same, ValidatorKey.ofNames_eq]
  | column name => cases s' <;> simp [key, Same, ValidatorKey.ofNames_eq]
  | props names =>
    cases s' with
    | prop other => simp [key, Same, ValidatorKey.ofNames_eq]
    | column other => simp [key, Same, ValidatorKey.ofNames_eq]
    | props others => exact ValidatorKey.ofNames_eq_iff

end Subject

variable {m : Model}

/-- Asks for a validator. -/
def ask (m : Model) : Subject → SchemaResult Handle × Model
  | .prop name => m.propValidator name
  | .props names => m.propsValidator names
  | .column name => m.columnValidator name

theorem fetches_ask (m : Model) (s : Subject) : m.Fetches s.key (m.ask s) := by
  cases s with
  | prop name => exact fetches_propValidator m name
  | props names => exact fetches_propsValidator m names
  | column name => exact fetches_columnValidator m name

/-- A validator that was asked for stands in the cache under its key. -/
theorem Fetches.has {key : ValidatorKey} {r : SchemaResult Handle × Model} {h : Handle}
    (hr : m.Fetches key r) (hh : r.1 = .ok h) : ∃ x, r.2.cache.Has h key x := by
  obtain ⟨e, rfl⟩ | ⟨schema, label, -, rfl⟩ := hr
  · cases hh
  · obtain ⟨place, hf, hr⟩ | ⟨x, -, -, hr⟩ | ⟨e, -, -, hr⟩ := m.fetch_cases key schema label
    · rw [hr] at hh ⊢
      obtain rfl : place = h := Except.ok.inj hh
      exact Cache.has_of_find? hf
    · rw [hr] at hh ⊢
      obtain rfl : m.cache.size = h := Except.ok.inj hh
      exact ⟨x, m.cache.has_add key x⟩
    · rw [hr] at hh
      cases hh

end Model

/-! ## Calls -/

/-- A call: for a validator, to check a value, or to check one with a validator that was handed out
by an earlier call. -/
inductive Call where
  | prop (name : String)
  | props (names : List String)
  | validateProps (v : Json)
  | validateColumn (name : String) (v : Json)
  | isValid (i : Nat) (v : Json)
  | validate (i : Nat) (v : Json)

/-- The answer to a call. -/
inductive Reply where
  | granted (x : Validator)
  | refused (e : SchemaError)
  | checked (outcome : Except CheckError Unit)
  /-- Whether a value passed, and the entries of the check. -/
  | tested (valid : Bool) (entries : Option (List Entry))
  | validated (outcome : Except Report Unit)
  /-- No such validator was handed out. -/
  | unknown

/-- The answers to calls made one after the other. -/
def replies {σ : Type} (call : σ → Call → Reply × σ) (s : σ) : List Call → List Reply
  | [] => []
  | c :: rest => (call s c).1 :: replies call (call s c).2 rest

/-- A model, and the validators it handed out. -/
structure Session where
  model : Model
  held : List Handle

namespace Session

/-- Takes the outcome of asking for a validator. -/
def receive (s : Session) : SchemaResult Handle × Model → Reply × Session
  | (.error e, m) => (.refused e, { s with model := m })
  | (.ok h, m) => match m.cache.get? h with
    | some t => (.granted t.validator, ⟨m, s.held ++ [h]⟩)
    | none => (.unknown, { s with model := m })

def call (s : Session) : Call → Reply × Session
  | .prop name => s.receive (s.model.propValidator name)
  | .props names => s.receive (s.model.propsValidator names)
  | .validateProps v =>
    let (outcome, m) := s.model.validateProps v
    (.checked outcome, { s with model := m })
  | .validateColumn name v =>
    let (outcome, m) := s.model.validateColumn name v
    (.checked outcome, { s with model := m })
  | .isValid i v => match s.held[i]? with
    | some h =>
      let cache := s.model.cache.check h v
      let reply := match cache.get? h with
        | some t => .tested t.passed t.last
        | none => .unknown
      (reply, { s with model := { s.model with cache := cache } })
    | none => (.unknown, s)
  | .validate i v => match s.held[i]? with
    | some h =>
      let (outcome, cache) := s.model.cache.validate h v
      (.validated outcome, { s with model := { s.model with cache := cache } })
    | none => (.unknown, s)

/-- A validator that is granted is kept. -/
theorem receive_of_get? {m : Model} {place : Handle} {t : Tracked} (s : Session)
    (h : m.cache.get? place = some t) :
    s.receive (.ok place, m) = (.granted t.validator, ⟨m, s.held ++ [place]⟩) := by
  rw [receive, h]

end Session

/-- A model that is never changed, and the validators that were compiled from it. -/
structure Reference where
  model : Model
  held : List Validator

namespace Reference

/-- Takes a validator that was compiled. -/
def receive (r : Reference) : SchemaResult Validator → Reply × Reference
  | .ok x => (.granted x, { r with held := r.held ++ [x] })
  | .error e => (.refused e, r)

def call (r : Reference) : Call → Reply × Reference
  | .prop name => r.receive (r.model.buildProp name)
  | .props names => r.receive (r.model.buildProps names)
  | .validateProps v => (.checked (r.model.checkRecord v), r)
  | .validateColumn name v => (.checked (r.model.checkColumn name v), r)
  | .isValid i v => match r.held[i]? with
    | some x => (.tested (x.check v).isNone (x.check v), r)
    | none => (.unknown, r)
  | .validate i v => match r.held[i]? with
    | some x => (.validated (x.validate v), r)
    | none => (.unknown, r)

end Reference

/-- Lists that are related item by item have related items at every place. -/
theorem getElem?_of_forall₂ {α β : Type} {R : α → β → Prop} {xs : List α} {ys : List β}
    (h : List.Forall₂ R xs ys) (i : Nat) : (xs[i]? = none ∧ ys[i]? = none) ∨
    ∃ x y, xs[i]? = some x ∧ ys[i]? = some y ∧ R x y := by
  induction h generalizing i with
  | nil => exact .inl ⟨rfl, rfl⟩
  | cons head _ ih =>
    cases i with
    | zero => exact .inr ⟨_, _, rfl, rfl, head⟩
    | succ i => exact ih i

/-- A session stands where a reference stands: it has the same entity, its cache is faithful, and
the places it holds lead to the validators of the reference. -/
structure Mirrors (s : Session) (r : Reference) : Prop where
  artifact : s.model.artifact = r.model.artifact
  faithful : s.model.Faithful
  held : List.Forall₂ (fun h x => ∃ key, s.model.cache.Has h key x) s.held r.held

namespace Mirrors

variable {s : Session} {r : Reference}

/-- Steps of the model do not matter. -/
theorem steps {m : Model} (h : Mirrors s r) (hm : s.model.Steps m) :
    Mirrors { s with model := m } r where
  artifact := hm.keeps.1.trans h.artifact
  faithful := hm.keeps.2 h.faithful
  held := h.held.imp fun _ _ ⟨key, hx⟩ => ⟨key, hx.grow hm.grows⟩

theorem receive {a : SchemaResult Handle × Model} {b : SchemaResult Validator} (h : Mirrors s r)
    (ha : s.model.Steps a.2) (hb : Model.Answers a b) :
    (s.receive a).1 = (r.receive b).1 ∧ Mirrors (s.receive a).2 (r.receive b).2 := by
  obtain ⟨result, m⟩ := a
  have after := h.steps ha
  cases b with
  | error e =>
    obtain rfl : result = .error e := hb
    exact ⟨rfl, after⟩
  | ok x =>
    obtain ⟨place, t, rfl, ht, rfl⟩ := hb
    rw [s.receive_of_get? ht]
    refine ⟨rfl, after.artifact, after.faithful, ?_⟩
    exact List.rel_append after.held (.cons (Cache.exists_has ht) .nil)

/-- The validator that a session holds is the one that the reference holds. -/
theorem held_at (h : Mirrors s r) (i : Nat) : (s.held[i]? = none ∧ r.held[i]? = none) ∨
    ∃ place t, s.held[i]? = some place ∧ s.model.cache.get? place = some t ∧
      r.held[i]? = some t.validator := by
  refine (getElem?_of_forall₂ h.held i).imp_right ?_
  rintro ⟨place, x, hs, hr, key, hx⟩
  obtain ⟨t, ht, rfl⟩ := hx.get?
  exact ⟨place, t, hs, ht, hr⟩

/-- **One call** has the same answer in a session and in the reference, and they go on alike. -/
theorem call (h : Mirrors s r) (c : Call) :
    (s.call c).1 = (r.call c).1 ∧ Mirrors (s.call c).2 (r.call c).2 := by
  obtain ⟨⟨artifact, cache⟩, held⟩ := r
  -- What is compiled anew depends on nothing but the entity, which is the same.
  obtain rfl : s.model.artifact = artifact := h.artifact
  cases c with
  | prop name =>
    exact h.receive (Model.fetches_propValidator s.model name).steps
      (Model.answers_propValidator h.faithful name)
  | props names =>
    exact h.receive (Model.fetches_propsValidator s.model names).steps
      (Model.answers_propsValidator h.faithful names)
  | validateProps v =>
    exact ⟨congrArg Reply.checked (Model.validateProps_fst h.faithful v),
      h.steps (Model.steps_validateProps s.model v)⟩
  | validateColumn name v =>
    exact ⟨congrArg Reply.checked (Model.validateColumn_fst h.faithful name v),
      h.steps (Model.steps_validateColumn s.model name v)⟩
  | isValid i v =>
    obtain ⟨hs, hr⟩ | ⟨place, t, hs, ht, hr⟩ := h.held_at i
    · simp only [Session.call, Reference.call, hs, hr]
      exact ⟨trivial, h⟩
    · simp only [Session.call, Reference.call, hs, hr, Cache.get?_check ht]
      exact ⟨rfl, h.steps (.single (.check place v))⟩
  | validate i v =>
    obtain ⟨hs, hr⟩ | ⟨place, t, hs, ht, hr⟩ := h.held_at i
    · simp only [Session.call, Reference.call, hs, hr]
      exact ⟨trivial, h⟩
    · simp only [Session.call, Reference.call, hs, hr, Cache.validate_eq ht, Cache.validate_snd]
      exact ⟨trivial, h.steps (.single (.check place v))⟩

/-- **Calls** made one after the other have the same answers. -/
theorem replies (h : Mirrors s r) (calls : List Call) :
    EntitySchema.replies Session.call s calls = EntitySchema.replies Reference.call r calls := by
  induction calls generalizing s r with
  | nil => rfl
  | cons c rest ih =>
    obtain ⟨answer, after⟩ := h.call c
    rw [EntitySchema.replies, EntitySchema.replies, answer, ih after]

end Mirrors

/-- **Transparency of the cache.** A model answers every sequence of calls as if each validator were
compiled when it is asked for. Two requests are granted the same validator, whatever was asked in
between, just when they ask for the same kind with the same name or the same set of names; checks of
records and of columns use the validators that a request for them is granted. -/
theorem cache_is_transparent {c : Compiler} {e : Entity} {m : Model} (h : c.define e = .ok m) :
    (∀ calls, replies Session.call ⟨m, []⟩ calls = replies Reference.call ⟨m, []⟩ calls) ∧
    (∀ (m₁ m₂ : Model) (s s' : Model.Subject) (place place' : Handle),
      m.Reaches m₁ → (m₁.ask s).1 = .ok place →
      (m₁.ask s).2.Reaches m₂ → (m₂.ask s').1 = .ok place' →
      (place = place' ↔ s.Same s')) ∧
    ∀ (m' : Model) name v ms,
      m'.validateColumn name v = Model.checkWith (m'.ask (.column name)) v ∧
      m'.validateProps (.obj ms) =
        Model.checkWith (m'.ask (.props (Members.keys ms))) (.obj ms) := by
  refine ⟨?_, ?_, fun m' name v ms => ⟨m'.validateColumn_eq_checkWith name v, rfl⟩⟩
  · intro calls
    have start : Mirrors ⟨m, []⟩ ⟨m, []⟩ := ⟨rfl, Compiler.faithful_of_define h, .nil⟩
    exact start.replies calls
  · intro m₁ m₂ s s' place place' h₁ hs h₂ hs'
    have asked := Model.fetches_ask m₁ s
    have asked' := Model.fetches_ask m₂ s'
    obtain ⟨x, hx⟩ := asked.has hs
    obtain ⟨x', hx'⟩ := asked'.has hs'
    -- The first validator is still in its place when the second one is granted.
    have later : (m₁.ask s).2.Steps (m₂.ask s').2 := h₂.steps.trans asked'.steps
    have distinct : (m₂.ask s').2.cache.Distinct := by
      have all : m.Steps (m₂.ask s').2 := (h₁.steps.trans asked.steps).trans later
      refine all.grows.2 ?_
      obtain ⟨a, -, rfl⟩ := Compiler.define_eq_ok.1 h
      exact List.nodup_nil
    rw [distinct.eq_iff (hx.grow later.grows) hx', Model.Subject.key_eq_iff]

theorem string_entity_is_transparent : ∃ m m' place place',
    Compiler.standard.define (.withString "minProperties" (.num (.int 1))) = .ok m ∧
    (m.ask (.prop "p")).1 = .ok place ∧ (m.ask (.prop "p")).2.Reaches m' ∧
    (m'.ask (.column "p")).1 = .ok place' ∧ place ≠ place' ∧
    ∀ v, replies Session.call ⟨m, []⟩ [.prop "p", .validateColumn "p" v, .isValid 0 v] =
      replies Reference.call ⟨m, []⟩ [.prop "p", .validateColumn "p" v, .isValid 0 v] := by
  have run : (Compiler.standard.define (.withString "minProperties"
      (.num (.int 1)))).toOption.map (fun m => ((m.ask (.prop "p")).1.toOption,
        ((m.ask (.prop "p")).2.ask (.column "p")).1.toOption)) = some (some 0, some 1) := by
    decide +kernel
  obtain ⟨m, hm, asked⟩ := Option.map_eq_some_iff.1 run
  obtain ⟨first, second⟩ := Prod.mk.inj asked
  obtain ⟨transparent, granted, -⟩ := cache_is_transparent (toOption_eq_some.1 hm)
  have other : (0 : Handle) = 1 ↔ False :=
    granted m _ (.prop "p") (.column "p") 0 1 ⟨[], rfl⟩ (toOption_eq_some.1 first) ⟨[], rfl⟩
      (toOption_eq_some.1 second)
  exact ⟨m, _, 0, 1, toOption_eq_some.1 hm, toOption_eq_some.1 first, ⟨[], rfl⟩,
    toOption_eq_some.1 second, other.1, fun v => transparent _⟩

end EntitySchema
