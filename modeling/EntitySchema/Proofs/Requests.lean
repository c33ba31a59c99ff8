import EntitySchema.Model
import EntitySchema.Proofs.Validation.Places
import Mathlib.Logic.Relation

/-!
# Requests to a model

A model may be asked for validators and to check values, in any order, and changes its cache on the
way. All that a request does to a model is to fetch validators and to check values with them
(`Step`, `steps_serve`), so what one such step keeps is kept by every run of requests.

`Faithful` is kept: every validator in the cache is what one gets by compiling the schema that its
key stands for (`sourceOf`). It holds of every model that can be reached from a new one
(`Reaches.keeps`), and a validator that such a model grants is the one that compiling would give
(`grants_fetch`).
-/

namespace EntitySchema

theorem Validator.compile_eq_ok {schema : Json} {label : Option String} {x : Validator} :
    compile schema label = .ok x ↔
      ∃ d, Draft7.Compiled.compile schema = .ok d ∧ x = ⟨d, label⟩ := by
  unfold compile
  cases Draft7.Compiled.compile schema with
  | error reason => simp [fail]
  | ok d => simp [pure, Except.pure, eq_comm]

theorem Validator.validate_eq_ok {x : Validator} {v : Json} :
    x.validate v = .ok () ↔ x.compiled.accepts v = true := by
  rw [← check_eq_none, validate]
  cases x.check v <;> simp [outcome]

namespace Model

/-! ## What validators come from -/

/-- The schema and the label that the validator for a key is compiled from. -/
def sourceOf (m : Model) : ValidatorKey → SchemaResult (Json × Option String)
  | .prop name => return (← m.schemaOf name, some name)
  | .props names => return (Document.closed names (← m.schemasOf names), none)
  | .column name => return (← m.schemaOf name, some (m.instanceName ++ "." ++ name))

/-- Every validator in the cache is compiled from what its key stands for. -/
def Faithful (m : Model) : Prop := ∀ x ∈ m.cache.validators, ∃ source,
  m.sourceOf x.1 = .ok source ∧ Validator.compile source.1 source.2 = .ok x.2

/-- A request was answered with a handle of the validator `x`. -/
def Grants (r : SchemaResult Handle × Model) (x : Validator) : Prop :=
  ∃ h t, r.1 = .ok h ∧ r.2.cache.get? h = some t ∧ t.validator = x

variable {m m' : Model} {key : ValidatorKey} {schema : Json} {label : Option String} {x : Validator}

theorem Faithful.congr (hm : m.Faithful) (ha : m'.artifact = m.artifact)
    (hc : m'.cache.validators = m.cache.validators) : m'.Faithful := by
  obtain ⟨a, c⟩ := m
  obtain ⟨a', c'⟩ := m'
  subst ha
  unfold Faithful
  rw [hc]
  exact hm

/-- A model has the entity of another one, and its cache is as good. -/
def Keeps (m m' : Model) : Prop := m'.artifact = m.artifact ∧ (m.Faithful → m'.Faithful)

theorem Keeps.refl (m : Model) : m.Keeps m := ⟨rfl, id⟩

theorem Keeps.trans {m'' : Model} (h : m.Keeps m') (h' : m'.Keeps m'') : m.Keeps m'' :=
  ⟨h'.1.trans h.1, h'.2 ∘ h.2⟩

/-- What a request for a validator does, in terms of the cache. -/
theorem fetch_cases (m : Model) (key : ValidatorKey) (schema : Json) (label : Option String) :
    (∃ h, m.cache.find? key = some h ∧ m.fetch key schema label = (.ok h, m)) ∨
    (∃ x, m.cache.find? key = none ∧ Validator.compile schema label = .ok x ∧
      m.fetch key schema label = (.ok m.cache.size, { m with cache := m.cache.add key x })) ∨
    ∃ e, m.cache.find? key = none ∧ Validator.compile schema label = .error e ∧
      m.fetch key schema label = (.error (e.inEntity m.name), m) := by
  unfold fetch
  obtain ⟨h, hf, hr⟩ | ⟨x, hf, hx, hr⟩ | ⟨e, hf, hx, hr⟩ :=
    m.cache.getOrCompile_cases key fun _ => Validator.compile schema label
  · exact .inl ⟨h, hf, by rw [hr]; rfl⟩
  · exact .inr (.inl ⟨x, hf, hx, by rw [hr]; rfl⟩)
  · exact .inr (.inr ⟨e, hf, hx, by rw [hr]; rfl⟩)

/-- A validator that is fetched is compiled from its source, now or earlier. -/
theorem grants_fetch (hm : m.Faithful) (hs : m.sourceOf key = .ok (schema, label))
    (hx : Validator.compile schema label = .ok x) : Grants (m.fetch key schema label) x := by
  obtain ⟨h, hf, hr⟩ | ⟨y, -, hy, hr⟩ | ⟨e, -, he, -⟩ := m.fetch_cases key schema label
  · obtain ⟨t, ht, hmem⟩ := Cache.get?_of_find? hf
    obtain ⟨source, hsource, hcompile⟩ := hm _ hmem
    obtain rfl : source = (schema, label) := Except.ok.inj (hsource.symm.trans hs)
    obtain rfl : t.validator = x := Except.ok.inj (hcompile.symm.trans hx)
    exact ⟨h, t, by rw [hr], by rw [hr]; exact ht, rfl⟩
  · obtain rfl : y = x := Except.ok.inj (hy.symm.trans hx)
    obtain ⟨t, ht, hvalidator⟩ := (m.cache.has_add key y).get?
    exact ⟨m.cache.size, t, by rw [hr], by rw [hr]; exact ht, hvalidator⟩
  · cases he.symm.trans hx

theorem checkWith_of_grants {r : SchemaResult Handle × Model} (h : Grants r x) (v : Json) :
    (checkWith r v).1 = (x.validate v).mapError .invalid := by
  obtain ⟨a, m'⟩ := r
  obtain ⟨handle, t, rfl, ht, rfl⟩ := h
  show (m'.cache.validate handle v).1.mapError _ = _
  rw [Cache.validate_eq ht]

/-! ## Operations -/

theorem sourceOf_prop {name : String} (h : m.schemaOf name = .ok schema) :
    m.sourceOf (.prop name) = .ok (schema, some name) := by
  rw [sourceOf, h]
  rfl

theorem sourceOf_column {name : String} (h : m.schemaOf name = .ok schema) :
    m.sourceOf (.column name) = .ok (schema, some (m.instanceName ++ "." ++ name)) := by
  rw [sourceOf, h]
  rfl

theorem sourceOf_props {names : List String} {schemas : Members}
    (h : m.schemasOf names = .ok schemas) :
    m.sourceOf (.props names) = .ok (Document.closed names schemas, none) := by
  rw [sourceOf, h]
  rfl

/-! ## What requests do -/

/-- One thing that a request does to a model: it fetches a validator, or checks a value with one. -/
inductive Step (m : Model) : Model → Prop where
  | fetch {key : ValidatorKey} {schema : Json} {label : Option String}
      (source : m.sourceOf key = .ok (schema, label)) : m.Step (m.fetch key schema label).2
  | check (h : Handle) (v : Json) : m.Step { m with cache := m.cache.check h v }

/-- Any number of steps. -/
def Steps : Model → Model → Prop := Relation.ReflTransGen Step

/-- A request for the validator for a key is refused, or fetches the validator. -/
def Fetches (m : Model) (key : ValidatorKey) (r : SchemaResult Handle × Model) : Prop :=
  (∃ e, r = (.error e, m)) ∨
    ∃ schema label, m.sourceOf key = .ok (schema, label) ∧ r = m.fetch key schema label

theorem fetches_propValidator (m : Model) (name : String) :
    m.Fetches (.prop name) (m.propValidator name) := by
  unfold propValidator
  split
  · exact .inl ⟨_, rfl⟩
  · split
    · next schema hs => exact .inr ⟨_, _, sourceOf_prop hs, rfl⟩
    · exact .inl ⟨_, rfl⟩

theorem fetches_propsValidator (m : Model) (names : List String) :
    m.Fetches (.ofNames names) (m.propsValidator names) := by
  unfold propsValidator
  split
  · exact .inl ⟨_, rfl⟩
  · dsimp only
    split
    · next schemas hs => exact .inr ⟨_, _, sourceOf_props hs, rfl⟩
    · exact .inl ⟨_, rfl⟩

/-- The validator for the values of a column. -/
def columnValidator (m : Model) (name : String) : SchemaResult Handle × Model :=
  match m.schemaOf name with
  | .ok schema => m.fetch (.column name) schema (some (m.instanceName ++ "." ++ name))
  | .error e => (.error e, m)

theorem fetches_columnValidator (m : Model) (name : String) :
    m.Fetches (.column name) (m.columnValidator name) := by
  unfold columnValidator
  split
  · next schema hs => exact .inr ⟨_, _, sourceOf_column hs, rfl⟩
  · exact .inl ⟨_, rfl⟩

theorem validateColumn_eq_checkWith (m : Model) (name : String) (v : Json) :
    m.validateColumn name v = checkWith (m.columnValidator name) v := by
  unfold validateColumn columnValidator
  cases m.schemaOf name <;> rfl

theorem Fetches.steps {r : SchemaResult Handle × Model} (h : m.Fetches key r) : m.Steps r.2 := by
  obtain ⟨e, rfl⟩ | ⟨schema, label, source, rfl⟩ := h
  · exact .refl
  · exact .single (.fetch source)

theorem steps_checkWith {r : SchemaResult Handle × Model} (h : m.Steps r.2) (v : Json) :
    m.Steps (checkWith r v).2 := by
  obtain ⟨a, m'⟩ := r
  cases a with
  | error e => exact h
  | ok handle =>
    show m.Steps { m' with cache := (m'.cache.validate handle v).2 }
    rw [Cache.validate_snd]
    exact h.tail (.check handle v)

theorem steps_validateProps (m : Model) (v : Json) : m.Steps (m.validateProps v).2 := by
  unfold validateProps
  split
  · exact steps_checkWith (fetches_propsValidator m _).steps _
  · exact .refl

theorem steps_validateColumn (m : Model) (name : String) (v : Json) :
    m.Steps (m.validateColumn name v).2 := by
  rw [validateColumn_eq_checkWith]
  exact steps_checkWith (fetches_columnValidator m name).steps v

/-- What a model can be asked for. -/
inductive Request where
  | prop (name : String)
  | props (names : List String)
  | validateProps (v : Json)
  | validateColumn (name : String) (v : Json)
  /-- To check a value with a validator that was handed out. -/
  | check (h : Handle) (v : Json)

/-- The model after a request. -/
def serve (m : Model) : Request → Model
  | .prop name => (m.propValidator name).2
  | .props names => (m.propsValidator names).2
  | .validateProps v => (m.validateProps v).2
  | .validateColumn name v => (m.validateColumn name v).2
  | .check h v => { m with cache := m.cache.check h v }

theorem steps_serve (m : Model) (r : Request) : m.Steps (m.serve r) := by
  cases r with
  | prop name => exact (fetches_propValidator m name).steps
  | props names => exact (fetches_propsValidator m names).steps
  | validateProps v => exact steps_validateProps m v
  | validateColumn name v => exact steps_validateColumn m name v
  | check h v => exact .single (.check h v)

/-- A model becomes another one by requests. -/
def Reaches (m m' : Model) : Prop := ∃ requests : List Request, requests.foldl serve m = m'

theorem Reaches.steps (h : m.Reaches m') : m.Steps m' := by
  obtain ⟨requests, rfl⟩ := h
  induction requests generalizing m with
  | nil => exact .refl
  | cons r rest ih => exact (steps_serve m r).trans ih

/-! ## What stays true -/

theorem keeps_fetch (hs : m.sourceOf key = .ok (schema, label)) :
    m.Keeps (m.fetch key schema label).2 := by
  obtain ⟨h, -, hr⟩ | ⟨x, -, hx, hr⟩ | ⟨e, -, -, hr⟩ := m.fetch_cases key schema label
  · exact hr ▸ .refl m
  · rw [hr]
    refine ⟨rfl, fun hm y hy => ?_⟩
    rw [Cache.validators_add] at hy
    rcases List.mem_append.1 hy with hy | hy
    · exact hm _ hy
    · obtain rfl := List.mem_singleton.1 hy
      exact ⟨_, hs, hx⟩
  · exact hr ▸ .refl m

theorem Step.keeps (h : m.Step m') : m.Keeps m' := by
  cases h with
  | fetch source => exact keeps_fetch source
  | check h v => exact ⟨rfl, fun hm => hm.congr rfl (Cache.validators_check ..)⟩

theorem Steps.keeps (h : m.Steps m') : m.Keeps m' := by
  induction h with
  | refl => exact .refl m
  | tail _ step ih => exact ih.trans step.keeps

theorem Reaches.keeps (h : m.Reaches m') : m.Keeps m' := h.steps.keeps

end Model

theorem Compiler.define_eq_ok {c : Compiler} {e : Entity} {m : Model} :
    c.define e = .ok m ↔ ∃ a, c.compile e = .ok a ∧ m = ⟨a, .empty⟩ := by
  rw [define, bind_eq_ok]
  refine exists_congr fun a => and_congr_right fun _ => ?_
  show Except.ok _ = Except.ok m ↔ _
  rw [Except.ok.injEq, eq_comm]

/-- A new model has no validators yet. -/
theorem Compiler.faithful_of_define {c : Compiler} {e : Entity} {m : Model}
    (h : c.define e = .ok m) : m.Faithful := by
  obtain ⟨a, -, rfl⟩ := define_eq_ok.1 h
  exact nofun

end EntitySchema
