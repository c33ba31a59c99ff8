import EntitySchema.Pattern.Basic
import EntitySchema.Pattern.Class
import EntitySchema.Text.Characters

/-!
# Reading patterns

Alternatives, sequences, repetitions, groups, classes, escapes and assertions. A text that is none
of these has no pattern.

Classes written with a letter mean the classes of Unicode; `plain` rewrites a text so that they, and
the control characters, mean what they mean in a schema.

Of the properties of Unicode only some are known by name (`CharSet.ofProperty?`). A text with `\p`
and another name is taken for one that has no pattern, although it may have one.
-/

namespace EntitySchema.Pattern

namespace Parser

/-- The switches that a pattern can turn on and off. -/
structure Switches where
  anyCase : Bool := false
  /-- Whether `^` and `$` hold at every line. -/
  byLine : Bool := false
  /-- Whether `.` admits a newline. -/
  dotAll : Bool := false
  /-- Whether a repetition prefers few copies unless a question mark follows. -/
  fewFirst : Bool := false
  /-- Whether white space, and what follows a `#` on its line, is passed over. -/
  spaced : Bool := false

/-- What is still to be read, and what has been met. -/
structure Source where
  rest : List Char
  switches : Switches := {}
  groups : Nat := 0
  names : List (String × Nat) := []
  /-- Whether a group was referred to by its number. -/
  numbered : Bool := false
  /-- How many parentheses are open. -/
  depth : Nat := 0

abbrev Read := StateT Source Option

/-! ## Characters -/

def setRest (cs : List Char) : Read Unit := modify fun s => { s with rest := cs }

/-- Takes a character that must come next. -/
def expect (c : Char) : Read Unit := do
  match (← get).rest with
  | d :: rest => if c = d then setRest rest else failure
  | [] => failure

/-- Takes a character if it comes next. -/
def accept (c : Char) : Read Bool := do
  match (← get).rest with
  | d :: rest =>
    if c = d then
      setRest rest
      return true
    else return false
  | [] => return false

/-- The text after a comment, from behind its opening on. -/
def afterComment : List Char → Option (List Char)
  | ')' :: rest => some rest
  | '\\' :: _ :: rest => afterComment rest
  | _ :: rest => afterComment rest
  | [] => none

/-- The text after the comments at its start, and after white space where that does not count. -/
def afterComments (spaced : Bool) : Nat → List Char → Option (List Char)
  | fuel + 1, '(' :: '?' :: '#' :: rest => (afterComment rest).bind (afterComments spaced fuel)
  | fuel + 1, c :: rest =>
    if spaced && c = '#' then
      afterComments spaced fuel ((rest.dropWhile (· ≠ '\n')).drop 1)
    else if spaced && (c = ' ' || c = '\r' || c = '\n' || c = '\t') then
      afterComments spaced fuel rest
    else some (c :: rest)
  | _, cs => some cs

def skipComments : Read Unit := do
  let s ← get
  setRest (← afterComments s.switches.spaced s.rest.length s.rest)

/-- A set of characters under the present switches. -/
def folded (s : Switches) (t : CharSet) : CharSet := if s.anyCase then .anyCase t else t

def leaf (t : CharSet) : Read Pattern := do return .one (folded (← get).switches t)

/-! ## Escapes -/

/-- What is written after a backslash. -/
inductive Escape where
  | char (c : Char)
  | set (s : CharSet)
  | pattern (a : Pattern)

/-- The character of a code point. -/
def charOf (n : Nat) : Read Char := if n.isValidChar then return Char.ofNat n else failure

/-- A code point in `n` hexadecimal digits, or in up to eight between braces. -/
def hexChar (n : Nat) : Read Char := do
  let cs := (← get).rest
  match if cs.length < n then none else Text.hexValue? (cs.take n) with
  | some v =>
    setRest (cs.drop n)
    charOf v
  | none =>
    expect '\x7b'
    let ds := (← get).rest.takeWhile fun c => (Text.hexDigit? c).isSome
    if ds.isEmpty || 8 < ds.length then failure
    setRest ((← get).rest.drop ds.length)
    expect '\x7d'
    charOf (← Text.hexValue? ds)

/-- A property of Unicode: one letter, or a name between braces. -/
def property : Read CharSet := do
  if ← accept '\x7b' then
    let name := (← get).rest.takeWhile (· ≠ '\x7d')
    setRest ((← get).rest.drop name.length)
    expect '\x7d'
    CharSet.ofProperty? (String.ofList name)
  else
    match (← get).rest with
    | c :: rest =>
      setRest rest
      CharSet.ofProperty? c.toString
    | [] => failure

/-- The name of a group up to its closing sign. -/
def groupName (closing : Char) : Read String := do
  let cs := (← get).rest
  let name := cs.takeWhile fun c => Text.isLetterOrNumber c || c = '_'
  if name.isEmpty then failure
  setRest (cs.drop name.length)
  expect closing
  return String.ofList name

/-- The number of the group that is named next; it must have been opened. -/
def namedGroup (closing : Char) : Read Nat := do
  let name ← groupName closing
  (← get).names.lookup name

/-- The group whose number is written next; it must have been opened. -/
def numberedGroup : Read Nat := do
  let ds := (← get).rest.takeWhile Char.isDigit
  modify fun s => { s with rest := s.rest.drop ds.length, numbered := true }
  let n := Text.decimalValue ds
  if (← get).groups < n then failure
  return n

/-- The characters that a letter after a backslash stands for. -/
def letterEscape? (c : Char) : Option Char :=
  [('a', '\x07'), ('e', '\x1b'), ('f', '\x0c'), ('n', '\n'), ('r', '\r'), ('t', '\t'),
    ('v', '\x0b')].lookup c

/-- An escape from behind its backslash on. -/
def escape (inClass : Bool) : Read Escape := do
  match (← get).rest with
  | [] => failure
  | c :: rest =>
    if c.isDigit then return .pattern (.again (← numberedGroup))
    else
      setRest rest
      if inClass && "ABGKkz<>".toList.contains c then return .char c
      match c with
      | 'd' => return .set (.named .digit)
      | 'D' => return .set (.outside (.named .digit))
      | 'w' => return .set (.named .word)
      | 'W' => return .set (.outside (.named .word))
      | 's' => return .set (.named .blank)
      | 'S' => return .set (.outside (.named .blank))
      | 'h' => return .set .hexDigits
      | 'H' => return .set (.outside .hexDigits)
      | 'p' => return .set (← property)
      | 'P' => return .set (.outside (← property))
      | 'x' => return .char (← hexChar 2)
      | 'u' => return .char (← hexChar 4)
      | 'U' => return .char (← hexChar 8)
      | 'b' =>
        if inClass then return .char '\x08'
        else if rest.head? = some '\x7b' then failure
        else return .pattern (.assertion .wordBoundary)
      | 'B' => return .pattern (.assertion .noWordBoundary)
      | 'A' => return .pattern (.assertion .start)
      | 'z' => return .pattern (.assertion .finish)
      | '<' => return .pattern (.assertion .wordStart)
      | '>' => return .pattern (.assertion .wordFinish)
      | 'G' => return .pattern (.assertion .start)
      | 'K' => return .pattern (.group 0 .empty)
      | 'k' =>
        if ← accept '\'' then return .pattern (.again (← namedGroup '\''))
        else
          expect '<'
          return .pattern (.again (← namedGroup '>'))
      | c => match letterEscape? c with
        | some d => return .char d
        | none => if c.isAlpha then failure else return .char c

/-! ## Classes -/

/-- The tokens of a class up to the bracket that closes it; `depth` brackets are open. -/
def classTokens : Nat → Nat → Read (List ClassToken)
  | 0, _ => failure
  | fuel + 1, depth => do
    match (← get).rest with
    | [] => failure
    | '\\' :: rest =>
      setRest rest
      let t ← match ← escape true with
        | .char c => pure (ClassToken.char c)
        | .set s => pure (ClassToken.set s)
        | .pattern _ => failure
      return t :: (← classTokens fuel depth)
    | c :: rest =>
      setRest rest
      let depth := if c = '[' then depth + 1 else if c = ']' then depth - 1 else depth
      if depth = 0 then return [.sign c]
      return .sign c :: (← classTokens fuel depth)

/-- A class from behind its opening bracket on. A bracket right at the start is an element. -/
def bracketed : Read Pattern := do
  let negated ← accept '^'
  let bracket ← accept ']'
  let s ← get
  let tokens := (if negated then [ClassToken.sign '^'] else [])
    ++ (if bracket then [ClassToken.sign ']'] else [])
    ++ (← classTokens (s.rest.length + 1) 1)
  match classSet (folded s.switches) (2 * tokens.length + 2) tokens with
  | some (t, []) => return .one t
  | _ => failure

/-! ## Repetition -/

def number? (cs : List Char) : Option (Nat × List Char) :=
  let ds := cs.takeWhile Char.isDigit
  if ds.isEmpty then none
  else some (Text.decimalValue ds, cs.drop ds.length)

/-- Bounds in braces, from behind the opening brace on. A lower bound that is left out is zero. -/
def bounds? (cs : List Char) : Option ((Nat × Option Nat) × List Char) := do
  let (least, rest) ← if cs.head? = some ',' then some (0, cs) else number? cs
  match rest with
  | '\x7d' :: rest => return ((least, some least), rest)
  | ',' :: rest =>
    let (most, rest) := match number? rest with
      | some (most, rest) => (some most, rest)
      | none => (none, rest)
    match rest with
    | '\x7d' :: rest => return ((least, most), rest)
    | _ => none
  | _ => none

/-- The repetition written at the start of a text. Braces that hold no bounds are none. -/
def quantifier? : List Char → Option ((Nat × Option Nat) × List Char)
  | '*' :: rest => some ((0, none), rest)
  | '+' :: rest => some ((1, none), rest)
  | '?' :: rest => some ((0, some 1), rest)
  | '\x7b' :: rest => bounds? rest
  | _ => none

/-- Whether a pattern may be repeated: one that reads nothing as such may not. -/
def isRepeatable : Pattern → Bool
  | .empty | .assertion _ | .ahead _ _ | .behind _ _ _ => false
  | _ => true

/-- A pattern with the repetition written after it. A question mark asks for few copies first,
a plus sign for a repetition that is settled. -/
def quantified (a : Pattern) : Read Pattern := do
  match quantifier? (← get).rest with
  | none => return a
  | some ((least, most), rest) =>
    if !isRepeatable a || most.any (· < least) then failure
    setRest rest
    skipComments
    let asked ← accept '?'
    let b := Pattern.repeated a least most (asked == (← get).switches.fewFirst)
    return if ← accept '+' then .settled b else b

/-! ## Groups -/

def sequence : List Pattern → Pattern
  | [] => .empty
  | [a] => a
  | a :: as => .seq a (sequence as)

def anyOf : List Pattern → Pattern
  | [] => .empty
  | [a] => a
  | a :: as => .alt a (anyOf as)

def alternatives : Pattern → List Pattern
  | .alt a b => alternatives a ++ alternatives b
  | a => [a]

/-- Whether a match of `a` ends here, or none does. Each of its alternatives must have one size. -/
def behind? (a : Pattern) (wanted : Bool) : Option Pattern := do
  match ← (alternatives a).mapM fun b => do
      return Pattern.behind (← size? b) (.settled b) wanted with
  | [b] => return b
  | bs => return .ahead (if wanted then anyOf bs else sequence bs) true

/-- Turns switches on or off, up to the sign that ends them, which is returned. -/
def switches : Nat → Bool → Read Char
  | 0, _ => failure
  | fuel + 1, value => do
    skipComments
    match (← get).rest with
    | [] => failure
    | c :: rest =>
      setRest rest
      match c with
      | 'i' => modify fun s => { s with switches.anyCase := value }
      | 'm' => modify fun s => { s with switches.byLine := value }
      | 's' => modify fun s => { s with switches.dotAll := value }
      | 'U' => modify fun s => { s with switches.fewFirst := value }
      | 'x' => modify fun s => { s with switches.spaced := value }
      | 'u' => if !value then failure
      | '-' => if !value then failure
      | _ => pure ()
      if c = ')' ∨ c = ':' then return c
      else if "imsUxu-".toList.contains c then switches fuel (value && c ≠ '-')
      else failure

/-- How many parentheses cannot be open at once. -/
def depthLimit : Nat := 64

mutual

/-- Alternatives, up to a closing parenthesis or the end. Where there is only one, groups must not
have been referred to both by name and by number. -/
def branches : Nat → Read Pattern
  | 0 => failure
  | fuel + 1 => do
    let a := sequence (← branch fuel)
    skipComments
    if ← accept '|' then return .alt a (← otherBranches fuel)
    let s ← get
    if s.numbered && !s.names.isEmpty then failure else return a

/-- The alternatives after the first one. -/
def otherBranches : Nat → Read Pattern
  | 0 => failure
  | fuel + 1 => do
    let a := sequence (← branch fuel)
    skipComments
    if ← accept '|' then return .alt a (← otherBranches fuel) else return a

/-- The pieces of a sequence that read or ask for something. -/
def branch : Nat → Read (List Pattern)
  | 0 => failure
  | fuel + 1 => do
    let before := (← get).rest.length
    if before = 0 then return []
    let a ← piece fuel
    if (← get).rest.length = before then return []
    let more ← branch fuel
    return if a = .empty then more else a :: more

/-- One item and the repetition after it. -/
def piece : Nat → Read Pattern
  | 0 => failure
  | fuel + 1 => do
    let a ← item fuel
    skipComments
    quantified a

/-- One item; none if a sign follows that ends a sequence or repeats an item. -/
def item : Nat → Read Pattern
  | 0 => failure
  | fuel + 1 => do
    skipComments
    let s ← get
    match s.rest with
    | [] => return .empty
    | c :: rest =>
      if "+*?|)".toList.contains c then return .empty
      setRest rest
      match c with
      | '.' => return .one (if s.switches.dotAll then .outside .nothing else .outside .newline)
      | '^' => return .assertion (if s.switches.byLine then .lineStart else .start)
      | '$' => return .assertion (if s.switches.byLine then .lineFinish else .finish)
      | '(' => nested fuel
      | '[' => bracketed
      | '\\' => match ← escape false with
        | .char d => leaf (.single d)
        | .set t => leaf t
        | .pattern a => return a
      | c => leaf (.single c)

/-- A group within fewer than `depthLimit` others. -/
def nested : Nat → Read Pattern
  | 0 => failure
  | fuel + 1 => do
    let depth := (← get).depth
    if depthLimit ≤ depth + 1 then failure
    modify fun s => { s with depth := depth + 1 }
    let a ← group fuel
    modify fun s => { s with depth := depth }
    return a

/-- A group from behind its opening parenthesis on. -/
def group : Nat → Read Pattern
  | 0 => failure
  | fuel + 1 => do
    skipComments
    let s ← get
    match s.rest with
    | '?' :: '=' :: rest => return .ahead (.settled (← enclosed fuel rest)) true
    | '?' :: '!' :: rest => return .ahead (.settled (← enclosed fuel rest)) false
    | '?' :: '<' :: '=' :: rest => behind? (← enclosed fuel rest) true
    | '?' :: '<' :: '!' :: rest => behind? (← enclosed fuel rest) false
    | '?' :: '<' :: rest | '?' :: 'P' :: '<' :: rest =>
      setRest rest
      let name ← groupName '>'
      modify fun s => { s with names := (name, s.groups + 1) :: s.names }
      captured fuel (← get).rest
    | '?' :: 'P' :: '=' :: rest =>
      setRest rest
      return .again (← namedGroup ')')
    | '?' :: '>' :: rest => return .settled (← enclosed fuel rest)
    | '?' :: '(' :: rest =>
      setRest rest
      conditional fuel
    | '?' :: rest =>
      setRest rest
      match rest with
      | ')' :: _ | '-' :: ')' :: _ | '-' :: ':' :: _ => failure
      | _ => pure ()
      if (← switches (rest.length + 1) true) = ')' then return .empty
      let a ← enclosed fuel (← get).rest
      modify fun t => { t with switches := s.switches }
      return a
    | rest => captured fuel rest

/-- A question and what to go on with, from behind the parenthesis before the question on. The
question may be whether a group has matched something; then there may be nothing to go on with. -/
def conditional : Nat → Read Pattern
  | 0 => failure
  | fuel + 1 => do
    let group? : Option Nat ← match (← get).rest with
      | '\'' :: rest => do
        setRest rest
        pure (some (← namedGroup '\''))
      | '<' :: rest => do
        setRest rest
        pure (some (← namedGroup '>'))
      | c :: _ => if c.isDigit then pure (some (← numberedGroup)) else pure none
      | [] => failure
    let question ← match group? with
      | some n => pure (.assertion (.matched n))
      | none => branches fuel
    skipComments
    expect ')'
    let before := (← get).rest.length
    let a ← branches fuel
    let after := (← get).rest.length
    skipComments
    expect ')'
    if after = before then
      if group?.isSome then return question else failure
    match a with
    | .alt yes no => return .choice question yes no
    | a => return .choice question a .empty

/-- The inside of a group that is remembered. -/
def captured : Nat → List Char → Read Pattern
  | 0, _ => failure
  | fuel + 1, cs => do
    let n := (← get).groups + 1
    modify fun s => { s with groups := n }
    return .group n (← enclosed fuel cs)

/-- The inside of a group and its closing parenthesis. -/
def enclosed : Nat → List Char → Read Pattern
  | 0, _ => failure
  | fuel + 1, cs => do
    setRest cs
    let a ← branches fuel
    skipComments
    expect ')'
    return a

end

end Parser

/-! ## Whole texts -/

/-- The pattern that a text writes. -/
def parse? (text : String) : Option Pattern := do
  let cs := text.toList
  let (a, s) ← (Parser.branches (8 * cs.length + 8)).run { rest := cs }
  if s.rest.isEmpty then return if a.refersBack then a else a.forget else none

/-- Control characters written as `\cA`. -/
def plainControls : List Char → List Char
  | '\\' :: 'c' :: c :: rest =>
    if c.isAlpha then Char.ofNat (c.toNat - 64) :: plainControls rest
    else '\\' :: plainControls ('c' :: c :: rest)
  | c :: rest => c :: plainControls rest
  | [] => []

/-- What the letters of classes stand for in a schema. -/
def plainClass? (c : Char) : Option String :=
  let blanks := " \t\n\r\x0b\x0c\u2003\ufeff\u2029\u00a0"
  [('d', "[0-9]"), ('D', "[^0-9]"), ('w', "[A-Za-z0-9_]"), ('W', "[^A-Za-z0-9_]"),
    ('s', "[" ++ blanks ++ "]"), ('S', "[^" ++ blanks ++ "]")].lookup c

def plainClasses : List Char → List Char
  | '\\' :: c :: rest =>
    match plainClass? c with
    | some s => s.toList ++ plainClasses rest
    | none => '\\' :: c :: plainClasses rest
  | c :: rest => c :: plainClasses rest
  | [] => []

/-- The pattern that a text writes in a schema, where `\d`, `\w` and `\s` name sets of their own. -/
def parsePlain? (text : String) : Option Pattern :=
  parse? (String.ofList (plainClasses (plainControls text.toList)))

/-- Whether a text has a match of a pattern; a text that writes no pattern matches nothing. -/
def isMatch (pattern text : String) : Bool := (parsePlain? pattern).any (·.search text)

example : isMatch "^(foo|bar)$" "bar" = true := by decide +kernel
example : isMatch "^[a-z]\x7b2,3\x7d$" "abcd" = false := by decide +kernel
example : (parse? "[").isNone = true := by decide +kernel
example : (parse? "a**").isNone = true := by decide +kernel

end EntitySchema.Pattern
