import EntitySchema.Draft7.Compiled
import EntitySchema.Proofs.Draft7.Agreement

/-!
# Following references

A document reports failures at places that depend on the order in which its schema was read. None
of that matters to what the failures say: `lead` follows references without a plan, and a document
tells the same as a check that follows its references with `lead` (`told_failures`).

A `Scope` is a document and what references are relative to somewhere in it. `admits` asks it about
a value at a schema that stands there; with the root, at the outermost scope, it says what the
document accepts (`accepts_eq`). Without references a schema accepts the same wherever it stands
(`accepts_iff_of_noReferences`).
-/

namespace EntitySchema.Draft7

open Reference (Base Index)

/-- Follows references to what is registered in `g`, at most `n` within each other. -/
def lead (g : Index) : Nat → Base → String → Check
  | 0 => fun _ _ _ _ => []
  | n + 1 => fun base r place v => match Reference.resolve g base r with
    | .error _ => []
    | .ok (_, x) => check ⟨x.base, lead g n⟩ x.schema place v

section
variable {g : Index} {base : Base} {r : String}

theorem lead_succ_ok {l : Uri.Locator} {x : Reference.Spot}
    (h : Reference.resolve g base r = .ok (l, x)) (n : Nat) :
    lead g (n + 1) base r = check ⟨x.base, lead g n⟩ x.schema := by
  funext place v
  simp only [lead, h]

theorem lead_succ_error {b : Reference.Broken} (h : Reference.resolve g base r = .error b) (n : Nat)
    (place : Pointer) (v : Json) : lead g (n + 1) base r place v = [] := by
  simp only [lead, h]

/-- References tell the same at every place. -/
theorem lead_alike (g : Index) (n : Nat) (base : Base) (r : String) :
    Alike (fun _ => True) (lead g n base r) (lead g n base r) := by
  induction n generalizing base r with
  | zero => exact fun _ _ _ _ => rfl
  | succ n ih =>
    intro p q v _
    cases h : Reference.resolve g base r with
    | error b => rw [lead_succ_error h, lead_succ_error h]
    | ok found =>
      rw [lead_succ_ok h]
      exact check_alike hereditary_true (fun c r _ => ih c r) p q v trivial

theorem told_check_lead (g : Index) (n : Nat) (base : Base) (schema : Json) (p q : Pointer)
    (v : Json) :
    told (check ⟨base, lead g n⟩ schema p v) = told (check ⟨base, lead g n⟩ schema q v) :=
  check_alike hereditary_true (fun c r _ => lead_alike g n c r) p q v trivial

theorem check_lead_eq_nil {schema : Json} {n : Nat} {v : Json} (p q : Pointer) :
    check ⟨base, lead g n⟩ schema p v = [] ↔ check ⟨base, lead g n⟩ schema q v = [] := by
  rw [← told_eq_nil, told_check_lead g n base schema p q, told_eq_nil]

/-- The plan of a document only decides which places its failures name. -/
theorem told_failuresAt (g : Index) (planFor : Reference.Spot → Plan) (n : Nat) (plan : Plan)
    (x : Reference.Spot) (p q : Pointer) (v : Json) :
    told (failuresAt g planFor n plan x p v) = told (check ⟨x.base, lead g n⟩ x.schema q v) := by
  induction n generalizing plan x p q v with
  | zero => exact check_alike hereditary_true (fun _ _ _ _ _ _ _ => rfl) p q v trivial
  | succ n ih =>
    refine check_alike hereditary_true (fun base r _ p q v _ => ?_) p q v trivial
    cases h : Reference.resolve g base r with
    | error b => rw [lead_succ_error h]
    | ok found =>
      obtain ⟨key, target⟩ := found
      rw [lead_succ_ok h]
      show told (if plan.contains (p, key) then _ else _) = _
      split <;> exact ih ..

end

/-! ## Scopes -/

/-- A document, and what references are relative to somewhere in it. -/
structure Scope where
  document : Compiled
  base : Base

namespace Scope

/-- What references mean to a check of `v`. -/
def guide (d : Scope) (v : Json) : Guide Verdict :=
  ⟨d.base, lead (.of d.document.root) (referenceBound d.document.root v)⟩

/-- The scope of what stands in a schema. -/
def enter (d : Scope) (schema : Json) : Scope :=
  { d with base := Reference.enter d.base schema }

/-- What passes a schema that stands in the scope. -/
def admits (d : Scope) (schema v : Json) : Bool := (within (d.guide v) schema [] v).isEmpty

variable {d : Scope} {schema v : Json}

theorem admits_iff (p : Pointer) :
    d.admits schema v = true ↔ within (d.guide v) schema p v = [] := by
  rw [admits, List.isEmpty_iff]
  exact check_lead_eq_nil [] p

end Scope

namespace Compiled

/-- The scope that a document as a whole stands in. -/
def scope (c : Compiled) : Scope := ⟨c, .ok Reference.unnamed⟩

variable {c : Compiled} {schema v : Json}

theorem told_failures (c : Compiled) (q : Pointer) (v : Json) :
    told (c.failures v) = told (within (c.scope.guide v) c.root q v) :=
  told_failuresAt ..

theorem accepts_eq (c : Compiled) (v : Json) : c.accepts v = c.scope.admits c.root v := by
  rw [accepts, Scope.admits, ← isEmpty_told, told_failures c [], isEmpty_told]

theorem accepts_iff {root : Json} (h : compile root = .ok c) (p : Pointer) : c.accepts v = true ↔
    within ⟨.ok Reference.unnamed, lead (.of root) (referenceBound root v)⟩ root p v = [] := by
  obtain rfl := root_of_compile h
  rw [accepts_eq, Scope.admits_iff p]
  rfl

theorem accepts_iff_of_noReferences (hc : compile schema = .ok c) (h : NoReferences schema)
    (f : Guide Verdict) (p : Pointer) : c.accepts v = true ↔ check f schema p v = [] := by
  rw [accepts_iff hc p]
  exact h.check_eq_nil _ f p p

end Compiled

end EntitySchema.Draft7
