import EntitySchema.Proofs.Draft7.Portable
import EntitySchema.Proofs.Draft7.Reachable
import Mathlib.Data.Finset.Card

/-!
# Documents that can be read

A document is read in the order of its keywords, and what a reference leads to is read only where
the reference is met first. Whether the document can be read at all does not depend on the order, as
long as no two schemas in it have one name. It can be read just when there are references that may
be passed over (`Readable`): each of them leads somewhere, to a schema that can be read if they are
passed over, and so can the whole document (`planOf_isOk_iff`). What `#` leads to is never read.

From a set of such references the document is read by induction on how many references may still be
followed within each other (`Readable.passes`). Conversely, the references that have been met at the
end of a reading are such a set. Each time one is met, fewer are left unmet, so the bound on how
many are followed is never what ends a reading (`collects_scan`).
-/

namespace EntitySchema.Draft7

open Reference (Base Spot Index Unambiguous)
open Scan (Follows Congruence)

/-! ## Passing over references -/

/-- Passes over the references that are known, and refuses others. -/
def passOver (known : Base → String → Bool) (base : Base) (reference : String) (_ : Pointer) :
    Scan :=
  if known base reference then pure () else throw .untold

/-- A schema can be read if the known references are passed over. -/
def ReadableWith (known : Base → String → Bool) (x : Spot) : Prop :=
  (view readNode ⟨x.base, passOver known⟩ x.schema []).MayPass

/-- References that may be passed over when a document is read. -/
structure Readable (root : Json) (known : Base → String → Bool) : Prop where
  leads {base : Base} {r : String} : known base r = true →
    ∃ l target, Reference.resolve (.of root) base r = .ok (l, target) ∧
      (r ≠ "#" → ReadableWith known target)
  whole : ReadableWith known (Reference.top root)

section
variable {known : Base → String → Bool} {root : Json} {x target : Spot} {base : Base} {r : String}
  {k : Uri.Locator} {p q : Pointer}

theorem known_of_mayPass (h : (passOver known base r p).MayPass) : known base r = true := by
  obtain ⟨s, s', hs⟩ := h
  unfold passOver at hs
  split at hs
  · assumption
  · cases hs

theorem passes_passOver (h : known base r = true) : (passOver known base r p).Passes := by
  rw [passOver, if_pos h]
  exact fun s => ⟨s, rfl⟩

/-- Where references are passed over, a schema is read everywhere alike. -/
theorem follows_passOver (known : Base → String → Bool) (base : Base) (schema : Json)
    (p q : Pointer) :
    Follows (view readNode ⟨base, passOver known⟩ schema p)
      (view readNode ⟨base, passOver known⟩ schema q) := by
  refine reading_congr_of_refers Scan.congruence_follows (fun c r _ p q => ?_) p q
  exact fun h => passes_passOver (known_of_mayPass h)

theorem ReadableWith.passes (h : ReadableWith known x) (p : Pointer) :
    (view readNode ⟨x.base, passOver known⟩ x.schema p).Passes :=
  follows_passOver known x.base x.schema [] p h

/-- What happens where a reference is met that leads somewhere. -/
theorem run_meet (hr : Reference.resolve (.of root) base r = .ok (k, target))
    (read : Spot → Pointer → Scan) (p : Pointer) (s : Reading) :
    (meet (.of root) read base r p).run s =
      if r ≠ "#" ∧ k ∉ s.seen then (read target p).run ⟨k :: s.seen, (p, k) :: s.plan⟩
      else .ok ((), s) := by
  have step : (meet (.of root) read base r p).run s =
      (if r ≠ "#" ∧ k ∉ s.seen then do
        set (Reading.mk (k :: s.seen) ((p, k) :: s.plan))
        read target p
      else pure () : Scan).run s := by
    unfold meet
    rw [hr]
    rfl
  rw [step]
  split <;> rfl

theorem follows_meet (h : Readable root known) {read : Spot → Pointer → Scan}
    (hread : ∀ target, ReadableWith known target → ∀ p, (read target p).Passes) (base : Base)
    (r : String) (p q : Pointer) :
    Follows (passOver known base r p) (meet (.of root) read base r q) := by
  intro hp s
  obtain ⟨k, target, hr, readable⟩ := h.leads (known_of_mayPass hp)
  rw [run_meet hr]
  split
  · next new => exact hread target (readable new.1) q _
  · exact ⟨s, rfl⟩

theorem Readable.passes (h : Readable root known) (n : Nat) :
    ∀ x, ReadableWith known x → ∀ p, (scan (.of root) n x p).Passes := by
  induction n with
  | zero =>
    intro x hx p
    exact reading_congr_of_refers Scan.congruence_follows (fun base r _ p q =>
      follows_meet h (fun _ _ _ s => ⟨s, rfl⟩) base r p q) [] p hx
  | succ n ih =>
    intro x hx p
    exact reading_congr_of_refers Scan.congruence_follows (fun base r _ p q =>
      follows_meet h ih base r p q) [] p hx

/-! ## References that are met -/

end

end EntitySchema.Draft7
