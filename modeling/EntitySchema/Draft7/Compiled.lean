import EntitySchema.Draft7.Evaluate
import EntitySchema.Draft7.Meta

/-!
# Compiled schemas

A document compiles when its references can be looked up, the schema of schemas has nothing against
it, and no part of it is refused when it is read. The reason why it does not is the first of these
that fails.
-/

namespace EntitySchema.Draft7

/-- A document that values can be checked against. -/
structure Compiled where
  root : Json
  plan : Plan
deriving DecidableEq, Repr

namespace Compiled

/-- Compiles a document, or gives the reason why it is no schema. -/
def compile (root : Json) : Except String Compiled :=
  match Reference.flawIn? root, complaints root with
  | some broken, _ => .error broken.message
  | none, c :: _ => .error c.message
  | none, [] => match planOf root (Reference.top root) with
    | .error refusal => .error refusal.message
    | .ok plan => .ok ⟨root, plan⟩

/-- What the document has against a value, in the order of its keywords. -/
def failures (c : Compiled) (v : Json) : List Failure := Draft7.failures c.root c.plan v

/-- Whether a value is as the document says. -/
def accepts (c : Compiled) (v : Json) : Bool := (c.failures v).isEmpty

theorem root_of_compile {root : Json} {c : Compiled} (h : compile root = .ok c) :
    c.root = root := by
  unfold compile at h
  split at h
  · cases h
  · cases h
  · split at h
    · cases h
    · cases h
      rfl

end Compiled

end EntitySchema.Draft7
