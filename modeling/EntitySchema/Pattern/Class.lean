import EntitySchema.Pattern.CharSet

/-!
# Bracketed classes

A class is a union of characters, ranges, named sets and nested classes; `&&`, `--` and `~~`
intersect, subtract and take what is in one of two unions only, from left to right. A bracket or a
hyphen that comes first stands for itself.

Classes are read from tokens in which the escapes are already understood, so an escaped character is
never a sign.
-/

namespace EntitySchema.Pattern

inductive ClassToken where
  /-- A character as it was written, which may be a sign of the class syntax. -/
  | sign (c : Char)
  /-- A character that stands for itself. -/
  | char (c : Char)
  | set (s : CharSet)

/-- What a token stands for where no sign is expected. -/
def ClassToken.toSet : ClassToken → CharSet
  | .sign c | .char c => .single c
  | .set s => s

def ClassToken.isSign (c : Char) : ClassToken → Bool
  | .sign d => c = d
  | _ => false

inductive SetOperation where
  | both
  | without
  | oneOf

def SetOperation.apply : SetOperation → CharSet → CharSet → CharSet
  | .both, s, t => .both s t
  | .without, s, t => s.without t
  | .oneOf, s, t => s.oneOf t

/-- Applies the operation that waits for its right side. -/
def combine (pending : Option (CharSet × SetOperation)) (s : CharSet) : CharSet :=
  match pending with
  | some (left, op) => op.apply left s
  | none => s

/-- A named set, from behind its opening bracket on: `:name:]` or `:^name:]`. -/
def namedSet? (tokens : List ClassToken) : Option (CharSet × List ClassToken) :=
  let letter? : ClassToken → Option Char
    | .sign c => if c.isAlpha then some c else none
    | _ => none
  match tokens with
  | .sign ':' :: tokens =>
    let (negated, tokens) := match tokens with
      | .sign '^' :: rest => (true, rest)
      | tokens => (false, tokens)
    let name := tokens.takeWhile fun t => (letter? t).isSome
    match tokens.drop name.length with
    | .sign ':' :: .sign ']' :: rest =>
      (CharSet.ofName? (String.ofList (name.filterMap letter?))).map fun s =>
        (if negated then .outside s else s, rest)
    | _ => none
  | _ => none

/-- The signs that open a class, and what they stand for: whether it is negated, and the hyphens or
the bracket that come first. -/
def opening (tokens : List ClassToken) : Bool × CharSet × List ClassToken :=
  let (negated, tokens) := match tokens with
    | .sign '^' :: rest => (true, rest)
    | tokens => (false, tokens)
  match tokens with
  | .sign '-' :: _ => (negated, .single '-', tokens.dropWhile (ClassToken.isSign '-'))
  | .sign ']' :: rest => (negated, .single ']', rest)
  | tokens => (negated, .nothing, tokens)

mutual

/-- A class from behind its opening bracket on. -/
def classSet (fold : CharSet → CharSet) : Nat → List ClassToken →
    Option (CharSet × List ClassToken)
  | 0, _ => none
  | fuel + 1, tokens => do
    let (negated, first, tokens) := opening tokens
    let (s, rest) ← classElements fold fuel none (fold first) tokens
    return (if negated then .outside s else s, rest)

/-- The elements of a class up to its closing bracket; `s` is the union so far. -/
def classElements (fold : CharSet → CharSet) : Nat → Option (CharSet × SetOperation) → CharSet →
    List ClassToken → Option (CharSet × List ClassToken)
  | 0, _, _, _ => none
  | fuel + 1, pending, s, tokens =>
    match tokens with
    | [] => none
    | .sign ']' :: rest => some (combine pending s, rest)
    | .sign '[' :: rest => do
      let (t, rest) ← match namedSet? rest with
        | some (t, rest) => some (fold t, rest)
        | none => classSet fold fuel rest
      classElements fold fuel pending (.either s t) rest
    | .sign '&' :: .sign '&' :: rest =>
      classElements fold fuel (some (combine pending s, .both)) .nothing rest
    | .sign '-' :: .sign '-' :: rest =>
      classElements fold fuel (some (combine pending s, .without)) .nothing rest
    | .sign '~' :: .sign '~' :: rest =>
      classElements fold fuel (some (combine pending s, .oneOf)) .nothing rest
    | low :: .sign '-' :: high :: rest =>
      if high.isSign ']' || high.isSign '-' then
        classElements fold fuel pending (.either s (fold low.toSet)) (.sign '-' :: high :: rest)
      else
        match low.toSet.only?, high.toSet.only? with
        | some a, some b =>
          if a ≤ b then classElements fold fuel pending (.either s (fold (.ranges [(a, b)]))) rest
          else none
        | _, _ => none
    | t :: rest => classElements fold fuel pending (.either s (fold t.toSet)) rest

end

end EntitySchema.Pattern
