import EntitySchema.Decimal.Shortest

/-!
# Json values

A Json value keeps the members of an object in their order, and a number as it was meant: a whole
number exactly, any other number as a binary64.

`Members` are the entries of an object. `get?` looks one up, `insert` puts one in its old place or
at the end, `erase` takes one out and leaves the others in order. The lemmas say what each does to
`get?` and to the keys.
-/

namespace EntitySchema

/-- A number: whole and exact, or binary64. -/
inductive Number where
  | int (n : Int)
  | real (x : Double)
deriving DecidableEq, Repr

/-- A Json value; objects keep the order of their members. -/
inductive Json where
  | null
  | bool (b : Bool)
  | num (n : Number)
  | str (s : String)
  | arr (items : List Json)
  | obj (members : List (String × Json))
deriving Repr, Inhabited

/-- The entries of an object, in order. -/
abbrev Members := List (String × Json)

/-! ## Members -/

namespace Members

def keys {α : Type} (ms : List (String × α)) : List String := ms.map Prod.fst

def get? {α : Type} (ms : List (String × α)) (k : String) : Option α :=
  match ms with
  | [] => none
  | (j, v) :: rest => if j = k then some v else get? rest k

def has {α : Type} (ms : List (String × α)) (k : String) : Bool := (get? ms k).isSome

/-- Puts `v` under `k`: in the place of an entry with that key, else at the end. -/
def insert {α : Type} (ms : List (String × α)) (k : String) (v : α) : List (String × α) :=
  match ms with
  | [] => [(k, v)]
  | (j, w) :: rest => if j = k then (j, v) :: rest else (j, w) :: insert rest k v

def erase {α : Type} (ms : List (String × α)) (k : String) : List (String × α) :=
  ms.filter fun m => m.1 ≠ k

/-- Inserts entries one after the other. -/
def insertAll {α : Type} (ms more : List (String × α)) : List (String × α) :=
  more.foldl (fun acc m => insert acc m.1 m.2) ms

/-- Merges repeated keys: the first place and the last value win. -/
def ofList {α : Type} (ms : List (String × α)) : List (String × α) := insertAll [] ms

section
variable {α : Type} {ms : List (String × α)} {j k : String} {v : α}

@[simp] theorem get?_nil : get? ([] : List (String × α)) k = none := rfl

theorem get?_cons (w : α) : get? ((j, w) :: ms) k = if j = k then some w else get? ms k := rfl

theorem get?_insert : get? (insert ms j v) k = if j = k then some v else get? ms k := by
  induction ms with
  | nil => rfl
  | cons m rest ih =>
    obtain ⟨i, w⟩ := m
    simp only [insert]
    split
    · subst i
      simp only [get?]
      split <;> rfl
    · simp only [get?, ih]
      split
      · next hi hik => rw [if_neg fun hj => hi (hik.trans hj.symm)]
      · rfl

@[simp] theorem get?_insert_self : get? (insert ms k v) k = some v := by simp [get?_insert]

theorem get?_insert_of_ne (h : j ≠ k) : get? (insert ms j v) k = get? ms k := by
  simp [get?_insert, h]

theorem get?_erase : get? (erase ms j) k = if j = k then none else get? ms k := by
  induction ms with
  | nil => simp [erase]
  | cons m rest ih =>
    obtain ⟨i, w⟩ := m
    simp only [erase] at ih
    by_cases hij : i = j
    · subst hij
      simp only [erase, ne_eq, not_true_eq_false, decide_false, Bool.false_eq_true,
        not_false_eq_true, List.filter_cons_of_neg, ih, get?_cons]
      split <;> rfl
    · simp only [erase, ne_eq, hij, not_false_eq_true, decide_true, List.filter_cons_of_pos,
        get?_cons, ih]
      split
      · next hik => rw [if_neg fun hj => hij (hik.trans hj.symm)]
      · rfl

theorem keys_insert_of_mem (h : k ∈ keys ms) : keys (insert ms k v) = keys ms := by
  induction ms with
  | nil => simp [keys] at h
  | cons m rest ih =>
    obtain ⟨i, w⟩ := m
    simp only [insert]
    split
    · rfl
    · next hne =>
      simp only [keys, List.map_cons, List.mem_cons] at h ih ⊢
      rw [ih (h.resolve_left fun e => hne e.symm)]

theorem keys_insert_of_not_mem (h : k ∉ keys ms) : keys (insert ms k v) = keys ms ++ [k] := by
  induction ms with
  | nil => rfl
  | cons m rest ih =>
    obtain ⟨i, w⟩ := m
    simp only [keys, List.map_cons, List.mem_cons, not_or] at h ih ⊢
    simp only [insert, if_neg (Ne.symm h.1), List.map_cons, List.cons_append]
    rw [ih h.2]

theorem nodup_keys_insert (h : (keys ms).Nodup) : (keys (insert ms k v)).Nodup := by
  by_cases hk : k ∈ keys ms
  · rwa [keys_insert_of_mem hk]
  · rw [keys_insert_of_not_mem hk]
    refine List.nodup_append.2 ⟨h, by simp, ?_⟩
    rintro a ha b hb rfl
    exact hk (List.mem_singleton.1 hb ▸ ha)

theorem nodup_keys_insertAll {more : List (String × α)} (h : (keys ms).Nodup) :
    (keys (insertAll ms more)).Nodup := by
  unfold insertAll
  induction more generalizing ms with
  | nil => exact h
  | cons m rest ih => exact ih (nodup_keys_insert h)

theorem nodup_keys_ofList : (keys (ofList ms)).Nodup := nodup_keys_insertAll List.nodup_nil

theorem keys_erase : keys (erase ms k) = (keys ms).filter (· ≠ k) := by
  rw [keys, keys, List.filter_map]
  rfl

end

end Members

/-! ## Equality -/

namespace Json

mutual

def decEq : (a b : Json) → Decidable (a = b)
  | .null, b => match b with
    | .null => isTrue rfl
    | .bool _ | .num _ | .str _ | .arr _ | .obj _ => isFalse nofun
  | .bool x, b => match b with
    | .bool y => if h : x = y then isTrue (h ▸ rfl) else isFalse fun e => h (Json.bool.inj e)
    | .null | .num _ | .str _ | .arr _ | .obj _ => isFalse nofun
  | .num x, b => match b with
    | .num y => if h : x = y then isTrue (h ▸ rfl) else isFalse fun e => h (Json.num.inj e)
    | .null | .bool _ | .str _ | .arr _ | .obj _ => isFalse nofun
  | .str x, b => match b with
    | .str y => if h : x = y then isTrue (h ▸ rfl) else isFalse fun e => h (Json.str.inj e)
    | .null | .bool _ | .num _ | .arr _ | .obj _ => isFalse nofun
  | .arr xs, b => match b with
    | .arr ys => match decEqItems xs ys with
      | isTrue h => isTrue (h ▸ rfl)
      | isFalse h => isFalse fun e => h (Json.arr.inj e)
    | .null | .bool _ | .num _ | .str _ | .obj _ => isFalse nofun
  | .obj xs, b => match b with
    | .obj ys => match decEqMembers xs ys with
      | isTrue h => isTrue (h ▸ rfl)
      | isFalse h => isFalse fun e => h (Json.obj.inj e)
    | .null | .bool _ | .num _ | .str _ | .arr _ => isFalse nofun

def decEqItems : (a b : List Json) → Decidable (a = b)
  | [], [] => isTrue rfl
  | [], _ :: _ => isFalse nofun
  | _ :: _, [] => isFalse nofun
  | x :: xs, y :: ys => match decEq x y with
    | isFalse h => isFalse fun e => h (List.cons.inj e).1
    | isTrue h => match decEqItems xs ys with
      | isFalse g => isFalse fun e => g (List.cons.inj e).2
      | isTrue g => isTrue (h ▸ g ▸ rfl)

def decEqMembers : (a b : List (String × Json)) → Decidable (a = b)
  | [], [] => isTrue rfl
  | [], _ :: _ => isFalse nofun
  | _ :: _, [] => isFalse nofun
  | (j, x) :: xs, (k, y) :: ys =>
    if i : j = k then
      match decEq x y with
      | isFalse h => isFalse fun e => h (Prod.mk.inj (List.cons.inj e).1).2
      | isTrue h => match decEqMembers xs ys with
        | isFalse g => isFalse fun e => g (List.cons.inj e).2
        | isTrue g => isTrue (i ▸ h ▸ g ▸ rfl)
    else isFalse fun e => i (Prod.mk.inj (List.cons.inj e).1).1

end

instance : DecidableEq Json := decEq

/-! ## Parts -/

def str? : Json → Option String
  | .str s => some s
  | _ => none

def bool? : Json → Option Bool
  | .bool b => some b
  | _ => none

def arr? : Json → Option (List Json)
  | .arr xs => some xs
  | _ => none

def obj? : Json → Option Members
  | .obj ms => some ms
  | _ => none

/-- The value under `k`, if this is an object that has one. -/
def get? (v : Json) (k : String) : Option Json := v.obj?.bind (Members.get? · k)

/-- The value under `k`, if it is a string. -/
def getStr? (v : Json) (k : String) : Option String := (v.get? k).bind str?

def ofStrings (names : List String) : Json := .arr (names.map .str)

/-- The strings of an array of Json values; other items are left out. -/
def strings (v : Json) : List String := (v.arr?.getD []).filterMap str?

/-! ## Repeated keys -/

mutual

/-- Merges repeated keys in every object: the first place and the last value win. -/
def settle : Json → Json
  | .arr xs => .arr (settleItems xs)
  | .obj ms => .obj (Members.ofList (settleMembers ms))
  | v => v

def settleItems : List Json → List Json
  | [] => []
  | x :: xs => settle x :: settleItems xs

def settleMembers : List (String × Json) → List (String × Json)
  | [] => []
  | (k, v) :: ms => (k, settle v) :: settleMembers ms

end

/-! ## Size -/

mutual

/-- The number of values in a value, itself included. -/
def size : Json → Nat
  | .arr xs => 1 + sizeItems xs
  | .obj ms => 1 + sizeMembers ms
  | _ => 1

def sizeItems : List Json → Nat
  | [] => 0
  | x :: xs => size x + sizeItems xs

def sizeMembers : List (String × Json) → Nat
  | [] => 0
  | (_, v) :: ms => size v + sizeMembers ms

end

mutual

/-- How deep a value is nested. -/
def depth : Json → Nat
  | .arr xs => 1 + depthItems xs
  | .obj ms => 1 + depthMembers ms
  | _ => 1

def depthItems : List Json → Nat
  | [] => 0
  | x :: xs => max (depth x) (depthItems xs)

def depthMembers : List (String × Json) → Nat
  | [] => 0
  | (_, v) :: ms => max (depth v) (depthMembers ms)

end

/-! ## Equality up to the order of members -/

/-- Two numbers are the same when both are whole and equal, or both binary64 and equal in value. -/
def sameNumber : Number → Number → Bool
  | .int a, .int b => a == b
  | .real a, .real b => Double.compare a b == .eq
  | _, _ => false

mutual

/-- Equality that does not look at the order of members. Keys are taken to be distinct. -/
def same : Json → Json → Bool
  | .null, .null => true
  | .bool a, .bool b => a == b
  | .num a, .num b => sameNumber a b
  | .str a, .str b => a == b
  | .arr xs, .arr ys => sameItems xs ys
  | .obj ms, .obj ns => ms.length == ns.length && sameMembers ms ns
  | _, _ => false

def sameItems : List Json → List Json → Bool
  | [], [] => true
  | x :: xs, y :: ys => same x y && sameItems xs ys
  | _, _ => false

/-- Whether every member of the first list is in the second. -/
def sameMembers : List (String × Json) → List (String × Json) → Bool
  | [], _ => true
  | (k, v) :: ms, ns =>
    (match Members.get? ns k with
      | some w => same v w
      | none => false) && sameMembers ms ns

end

end Json

end EntitySchema
