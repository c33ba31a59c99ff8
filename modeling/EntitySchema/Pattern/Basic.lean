import EntitySchema.Pattern.CharSet

/-!
# Patterns over text

A pattern is matched from places of a text. `run` takes the places where a match may start to those
where it may end, each once. A text has a match when some match ends anywhere (`search`). All starts
go together, so the work grows with the text and not with the number of ways to read it.

The ends come in order of preference: all those of the first start, then what the next start adds;
for one start, those of the left alternative first, and those of a greedy repetition with more
copies first. Only a part that is settled once and for all (`settled`, and the question of a
`choice`) depends on the order.

A place keeps what was matched by the groups that the pattern refers back to. No search is given up
because it takes too long.
-/

namespace EntitySchema

/-- What can be asked of a place without reading on. -/
inductive Assertion where
  | start
  | finish
  | lineStart
  | lineFinish
  | wordBoundary
  | noWordBoundary
  | wordStart
  | wordFinish
  /-- Whether the group `n` has matched something. -/
  | matched (n : Nat)
deriving DecidableEq, Repr

inductive Pattern where
  | empty
  | one (s : CharSet)
  | seq (a b : Pattern)
  | alt (a b : Pattern)
  /-- At least `least` copies, and at most `most` if there is a bound; as many as possible if it is
  greedy, and else as few. -/
  | repeated (a : Pattern) (least : Nat) (most : Option Nat) (greedy : Bool)
  | assertion (a : Assertion)
  /-- Whether a match of `a` starts here, or none does. -/
  | ahead (a : Pattern) (wanted : Bool)
  /-- Whether a match of `a`, which has `size` characters, ends here, or none does. -/
  | behind (size : Nat) (a : Pattern) (wanted : Bool)
  /-- The preferred match of `a` and no other. -/
  | settled (a : Pattern)
  /-- Goes on with `a` after the preferred match of `question`, or with `b` if it has none. -/
  | choice (question a b : Pattern)
  /-- Remembers what `a` matched. -/
  | group (n : Nat) (a : Pattern)
  /-- What the group `n` matched, once more. -/
  | again (n : Nat)
deriving DecidableEq, Repr

namespace Pattern

/-! ## Places -/

/-- A place of a text: what is before it, nearest first, what follows, and what the groups have
matched so far. -/
structure Place where
  index : Nat
  before : List Char
  rest : List Char
  groups : List (Nat × List Char)

namespace Place

/-- Places of one text are told apart by their index and groups. -/
instance : BEq Place where
  beq p q := p.index == q.index && p.groups == q.groups

def start (text : List Char) : Place := ⟨0, [], text, []⟩

/-- The place after the next character, if that is in `s`. -/
def next? (s : CharSet) (p : Place) : Option Place :=
  match p.rest with
  | [] => none
  | c :: rest => if s.has c then some ⟨p.index + 1, c :: p.before, rest, p.groups⟩ else none

/-- The place after a given text, if that follows. -/
def after? (p : Place) : List Char → Option Place
  | [] => some p
  | c :: cs => (p.next? (.single c)).bind (after? · cs)

/-- The place `n` characters before. -/
def back? (n : Nat) (p : Place) : Option Place :=
  if p.before.length < n then none
  else some ⟨p.index - n, p.before.drop n, (p.before.take n).reverse ++ p.rest, p.groups⟩

/-- Remembers that the group `n` matched from `start` to here. -/
def remember (n : Nat) (start p : Place) : Place :=
  { p with groups := (n, start.rest.take (p.index - start.index)) :: p.groups.filter (·.1 ≠ n) }

/-- The number of characters of the text. -/
def size (p : Place) : Nat := p.index + p.rest.length

end Place

/-- All places of a text from one on. -/
def placesFrom (p : Place) : List Char → List Place
  | [] => [p]
  | c :: cs => p :: placesFrom ⟨p.index + 1, c :: p.before, cs, p.groups⟩ cs

def places (text : List Char) : List Place := placesFrom (.start text) text

/-! ## Matching -/

def isWordAt (c : Option Char) : Bool := c.any Text.isWordChar

def holds (p : Place) : Assertion → Bool
  | .start => p.before.isEmpty
  | .finish => p.rest.isEmpty
  | .lineStart => p.before.head?.all (· = '\n')
  | .lineFinish => p.rest.head?.all (· = '\n')
  | .wordBoundary => isWordAt p.before.head? != isWordAt p.rest.head?
  | .noWordBoundary => isWordAt p.before.head? == isWordAt p.rest.head?
  | .wordStart => !isWordAt p.before.head? && isWordAt p.rest.head?
  | .wordFinish => isWordAt p.before.head? && !isWordAt p.rest.head?
  | .matched n => (p.groups.lookup n).isSome

/-- The places of `ps` and those of `qs` that are new, each of these once. -/
def merge (ps qs : List Place) : List Place :=
  qs.foldl (fun found q => if found.contains q then found else found ++ [q]) ps

/-- The places that `ends` gives for some places, each once. -/
def gather (ends : Place → List Place) (ps : List Place) : List Place :=
  ps.foldl (fun found p => merge found (ends p)) []

/-- The places after exactly `n` steps. -/
def iterate (step : List Place → List Place) : Nat → List Place → List Place
  | 0, ps => ps
  | n + 1, ps => iterate step n (step ps)

/-- What a repetition has found: the places it went on from, each with the number of copies that
were left if there is a bound, and the places where it may end, the last one first. -/
structure Trail where
  visited : List (Nat × Place) := []
  ends : List Place := []

def Trail.add (t : Trail) (p : Place) : Trail :=
  if t.ends.contains p then t else { t with ends := p :: t.ends }

/-- The places after at most `n` steps from a place. A place that was met before, with as many steps
left, adds nothing; nor does a step that reads nothing. -/
def explore (step : Place → List Place) (bounded greedy : Bool) : Nat → Trail → Place → Trail
  | 0, t, p => t.add p
  | n + 1, t, p =>
    let here := (if bounded then n + 1 else 0, p)
    if t.visited.contains here then t
    else
      let t := { t with visited := here :: t.visited }
      let further (t : Trail) : Trail := (step p).foldl
        (fun t q => if q.index = p.index then t else explore step bounded greedy n t q) t
      if greedy then (further t).add p else further (t.add p)

/-- The places of `ps` from which there is a match, with what its groups matched, or those from
which there is none. -/
def look (ends : Place → List Place) (wanted : Bool) (ps : List Place) : List Place :=
  gather (fun p =>
    if wanted then (ends p).map fun q => { p with groups := q.groups }
    else if (ends p).isEmpty then [p] else []) ps

/-- The places where a match can end that starts at one of `ps`. -/
def run : Pattern → List Place → List Place
  | .empty, ps => ps
  | .one s, ps => ps.filterMap (Place.next? s)
  | .seq a b, ps => run b (run a ps)
  | .alt a b, ps => gather (fun p => merge (run a [p]) (run b [p])) ps
  | .repeated a least most greedy, ps =>
    -- among more copies than the text has characters some read nothing and can be left out
    let enough := (ps.head?.map Place.size).getD 0 + 1
    let first := iterate (run a) (min least enough) ps
    let more := match most with
      | some m => min (m - least) enough
      | none => enough
    let bounded := more < enough
    (first.foldl (explore (fun p => run a [p]) bounded greedy more) {}).ends.reverse
  | .assertion a, ps => ps.filter (holds · a)
  | .ahead a wanted, ps => look (fun p => run a [p]) wanted ps
  | .behind size a wanted, ps =>
    look (fun p => match p.back? size with
      | some q => (run a [q]).filter (·.index = p.index)
      | none => []) wanted ps
  | .settled a, ps => gather (fun p => (run a [p]).take 1) ps
  | .choice question a b, ps =>
    gather (fun p => match run question [p] with
      | q :: _ => run a [q]
      | [] => run b [p]) ps
  | .group n a, ps => gather (fun p => (run a [p]).map (.remember n p)) ps
  | .again n, ps => ps.filterMap fun p => (p.groups.lookup n).bind p.after?

/-- Whether a text has a match anywhere. -/
def search (a : Pattern) (text : String) : Bool := !(a.run (places text.toList)).isEmpty

/-! ## Groups and sizes -/

/-- Whether a pattern asks what a group has matched. -/
def refersBack : Pattern → Bool
  | .seq a b | .alt a b => refersBack a || refersBack b
  | .choice question a b => refersBack question || refersBack a || refersBack b
  | .repeated a _ _ _ | .ahead a _ | .behind _ a _ | .settled a | .group _ a => refersBack a
  | .again _ | .assertion (.matched _) => true
  | _ => false

/-- The pattern without its groups, which matches the same when nothing refers back to them. Nor
does it matter then which match is seen ahead or behind. -/
def forget : Pattern → Pattern
  | .seq a b => .seq (forget a) (forget b)
  | .alt a b => .alt (forget a) (forget b)
  | .choice question a b => .choice (forget question) (forget a) (forget b)
  | .repeated a least most greedy => .repeated (forget a) least most greedy
  | .ahead (.settled a) wanted => .ahead (forget a) wanted
  | .ahead a wanted => .ahead (forget a) wanted
  | .behind size (.settled a) wanted => .behind size (forget a) wanted
  | .behind size a wanted => .behind size (forget a) wanted
  | .settled a => .settled (forget a)
  | .group _ a => forget a
  | a => a

/-- The number of characters of every match, if they have the same number. -/
def size? : Pattern → Option Nat
  | .empty | .assertion _ | .ahead _ _ | .behind _ _ _ => some 0
  | .one _ => some 1
  | .seq a b => do return (← size? a) + (← size? b)
  | .alt a b => do
    let n ← size? a
    if n = (← size? b) then return n else none
  | .choice question a b => do
    let n := (← size? question) + (← size? a)
    if n = (← size? b) then return n else none
  | .repeated a least most _ => do
    if most = some least then return least * (← size? a) else none
  | .settled a | .group _ a => size? a
  | .again _ => none

end Pattern

end EntitySchema
