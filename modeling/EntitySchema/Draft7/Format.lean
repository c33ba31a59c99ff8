import EntitySchema.Pattern.Parser
import EntitySchema.Text.Characters
import EntitySchema.Uri.Reference

/-!
# Formats

The named formats of strings. A name that is not listed here admits every string. Some of these are
formats whose rules are left out (`iri`, `iri-reference`, `uri-template` and `idn-hostname`), others
are no formats of this draft, such as `uuid`.
-/

namespace EntitySchema.Draft7.Format

/-! ## Mail addresses -/

/-- Scans the pairs of neighbours up to the first `@` that is not the first character. -/
def localPartEnds : List Char → Bool
  | a :: b :: rest =>
    if b = '@' then a ≠ '.'
    else if a = '.' ∧ b = '.' then false
    else localPartEnds (b :: rest)
  | _ => false

def email (s : List Char) : Bool := s.head? ≠ some '.' && localPartEnds s

/-! ## Dates and times -/

/-- The number written by exactly `n` digits at the start. -/
def digits (n : Nat) (s : List Char) : Option (Nat × List Char) :=
  let ds := s.take n
  if ds.length = n ∧ ds.all Char.isDigit then
    some (Text.decimalValue ds, s.drop n)
  else none

/-- The rest after a character that must come first. -/
def expect (c : Char) (s : List Char) : Option (List Char) :=
  match s with
  | d :: rest => if c = d then some rest else none
  | [] => none

def isLeap (year : Nat) : Bool := year % 4 = 0 && (year % 100 ≠ 0 || year % 400 = 0)

def daysIn (year month : Nat) : Nat :=
  if month = 2 then if isLeap year then 29 else 28
  else if month = 4 ∨ month = 6 ∨ month = 9 ∨ month = 11 then 30
  else 31

structure Date where
  year : Nat
  month : Nat
  day : Nat

/-- A calendar date at the start. -/
def readDate (s : List Char) : Option (Date × List Char) := do
  let (year, s) ← digits 4 s
  let s ← expect '-' s
  let (month, s) ← digits 2 s
  let s ← expect '-' s
  let (day, s) ← digits 2 s
  if 1 ≤ month ∧ month ≤ 12 ∧ 1 ≤ day ∧ day ≤ daysIn year month then
    return (⟨year, month, day⟩, s)
  else none

def date (s : List Char) : Bool := (readDate s).any fun r => r.2.isEmpty

/-- Hours, minutes and seconds at the start; the seconds may be up to `most`. -/
def readClock (most : Nat) (s : List Char) : Option ((Nat × Nat × Nat) × List Char) := do
  let (h, s) ← digits 2 s
  let s ← expect ':' s
  let (m, s) ← digits 2 s
  let s ← expect ':' s
  let (sec, s) ← digits 2 s
  if h ≤ 23 ∧ m ≤ 59 ∧ sec ≤ most then return ((h, m, sec), s) else none

/-- Hours and minutes at the start, in minutes. -/
def readMinutes (s : List Char) : Option (Nat × List Char) := do
  let (h, s) ← digits 2 s
  let s ← expect ':' s
  let (m, s) ← digits 2 s
  if h ≤ 23 ∧ m ≤ 59 then return (60 * h + m, s) else none

/-- An offset from universal time in minutes, with its sign. -/
def readOffset (s : List Char) : Option (Int × List Char) :=
  match s with
  | 'Z' :: rest | 'z' :: rest => some (0, rest)
  | '+' :: rest => (readMinutes rest).map fun r => ((r.1 : Int), r.2)
  | '-' :: rest => (readMinutes rest).map fun r => (-(r.1 : Int), r.2)
  | _ => none

/-- The zone that ends a time of day: as an offset, but a bar may stand for its sign. -/
def zone (s : List Char) : Bool :=
  match s with
  | '|' :: rest => (readMinutes rest).any fun r => r.2.isEmpty
  | s => (readOffset s).any fun r => r.2.isEmpty

/-- A time of day with six or no digits of fraction, and a zone. -/
def time (s : List Char) : Bool :=
  match readClock 59 s with
  | some (_, '.' :: rest) => (digits 6 rest).any fun r => zone r.2
  | some (_, s) => zone s
  | none => false

/-- The day after or before a date. -/
def shiftDay (d : Date) (days : Int) : Date :=
  if 0 < days then
    if d.day < daysIn d.year d.month then { d with day := d.day + 1 }
    else if d.month < 12 then ⟨d.year, d.month + 1, 1⟩
    else ⟨d.year + 1, 1, 1⟩
  else if days < 0 then
    if 1 < d.day then { d with day := d.day - 1 }
    else if 1 < d.month then ⟨d.year, d.month - 1, daysIn d.year (d.month - 1)⟩
    else ⟨d.year - 1, 12, 31⟩
  else d

/-- Whether a second 60 is possible: in universal time it ends the last minute of a month. -/
def isLeapSecond (d : Date) (hour minute : Nat) (offset : Int) : Bool :=
  let minutes : Int := 60 * hour + minute - offset
  let d := shiftDay d (minutes.fdiv 1440)
  minutes.fmod 1440 == 1439 && d.day == daysIn d.year d.month

/-- The digits of a fraction, if there is a point. -/
def skipFraction (s : List Char) : Option (List Char) :=
  match s with
  | '.' :: rest =>
    let ds := rest.takeWhile Char.isDigit
    if ds.isEmpty then none else some (rest.drop ds.length)
  | s => some s

/-- A date and a time of day with an offset; one ASCII character, whatever it is, divides them. -/
def dateTime (s : List Char) : Bool :=
  let read : Option Bool := do
    let (d, s) ← readDate s
    if !(s.head?.any fun c => c.toNat < 128) then none
    let ((h, m, sec), s) ← readClock 60 (s.drop 1)
    let (offset, s) ← readOffset (← skipFraction s)
    return s.isEmpty && (sec ≤ 59 || isLeapSecond d h m offset)
  read.getD false

/-! ## Names and places -/

/-- The name of a machine: labels of up to 63 letters, numbers and hyphens between points, up to 255
characters in all. -/
def hostname (s : List Char) : Bool :=
  !s.isEmpty && s.length ≤ 255 && s.head? ≠ some '-' && s.getLast? ≠ some '-'
    && (s.all fun c => Text.isLetterOrNumber c || c = '-' || c = '.')
    && (Text.splitOn '.' s).all fun label => label.length ≤ 63

/-- Whether every `~` is followed by `0` or `1`. -/
def pointerEscapes : List Char → Bool
  | '~' :: c :: rest => (c = '0' || c = '1') && pointerEscapes rest
  | ['~'] => false
  | _ :: rest => pointerEscapes rest
  | [] => true

/-- Empty, or parts after slashes. -/
def jsonPointer (s : List Char) : Bool :=
  (s.isEmpty || s.head? = some '/') && pointerEscapes s

/-- A number of levels to go up, and then `#` or a pointer. -/
def relativeJsonPointer (s : List Char) : Bool :=
  let ds := s.takeWhile Char.isDigit
  let rest := s.drop ds.length
  !ds.isEmpty && (ds.head? ≠ some '0' || ds.length = 1) && (rest = ['#'] || jsonPointer rest)

/-! ## By name -/

/-- Whether the format `name` admits a string. -/
def admits (name : String) (s : String) : Bool :=
  let cs := s.toList
  if name = "email" ∨ name = "idn-email" then email cs
  else if name = "date" then date cs
  else if name = "date-time" then dateTime cs
  else if name = "time" then time cs
  else if name = "ipv4" then Uri.ipv4 cs
  else if name = "ipv6" then Uri.ipv6 cs
  else if name = "hostname" then hostname cs
  else if name = "json-pointer" then jsonPointer cs
  else if name = "relative-json-pointer" then relativeJsonPointer cs
  else if name = "regex" then (Pattern.parsePlain? s).isSome
  else if name = "uri" then Uri.isAbsolute cs
  else if name = "uri-reference" then (Uri.fault? cs).isNone
  else true

example : admits "time" "12:00:00|01:00" = true := by decide
example : admits "date-time" "2016-12-31 22:59:60-01:00" = true := by decide
example : admits "relative-json-pointer" "01#" = false := by decide

end EntitySchema.Draft7.Format
