import EntitySchema.Draft7.Keyword
import EntitySchema.Draft7.Reference

/-!
# Refusals

A schema is refused where a keyword has a value that it can do nothing with, or where a reference
leads nowhere. The schema of schemas finds nearly all of the former, but it looks only where schemas
stand; a reference may lead to any value of the document.
-/

namespace EntitySchema.Draft7

/-- Why a schema is refused. -/
inductive Refusal where
  | broken (reference : Reference.Broken)
  | complaint (c : Complaint)
  /-- Something is wrong that is not told. -/
  | untold
deriving DecidableEq, Repr

namespace Refusal

def message : Refusal → String
  | .broken b => b.message
  | .complaint c => c.message
  | .untold => "Schema error"

/-- What a schema stands in must have a name. -/
def ofBase : Reference.Base → Except Refusal Unit
  | .ok _ => .ok ()
  | .error b => .error (.broken b)

/-- A value must have one of some types. -/
def ofTypes (types : List String) (v : Json) : Except Refusal Unit :=
  if types.any (hasType · v) then .ok () else .error (.complaint (.wrongType v types))

/-- A list must hold strings. -/
def ofStrings (vs : List Json) : Except Refusal Unit := vs.forM (ofTypes ["string"])

/-- The types that `type` asks for. -/
def checkTypes : Json → Except Refusal Unit
  | .str t => single t
  | .arr [v] => do
    ofTypes ["string"] v
    single (v.str?.getD "")
  | .arr vs => vs.forM fun v => do
    ofTypes ["string"] v
    if typeNames.any fun t => v = .str t then .ok ()
    else .error (.complaint (.notOneOf v (typeNames.map Json.str)))
  | v => ofTypes ["array", "string"] v
where
  single (t : String) : Except Refusal Unit :=
    if typeNames.contains t then .ok () else .error .untold

/-- A limit to a size is a whole number that is not negative. -/
def checkLimit (v : Json) : Except Refusal Unit :=
  match v with
  | .num n =>
    if n.toLimit?.isSome then .ok ()
    else if n.isWhole then .error (.complaint (.belowMinimum v (.num (.int 0))))
    else ofTypes ["integer"] v
  | v => ofTypes ["integer"] v

def checkPattern (v : Json) : Except Refusal Unit :=
  match v with
  | .str p =>
    if (Pattern.parsePlain? p).isSome then .ok () else .error (.complaint (.wrongFormat v "regex"))
  | v => ofTypes ["string"] v

/-- The keywords that set a bound to numbers. -/
def numberKeywords : List String :=
  ["minimum", "maximum", "exclusiveMinimum", "exclusiveMaximum", "multipleOf"]

/-- The keywords that set a limit to a size. -/
def sizeKeywords : List String :=
  ["minLength", "maxLength", "minItems", "maxItems", "minProperties", "maxProperties"]

/-- Whether a keyword that holds no schemas can do something with its value. -/
def checkValue (k : String) (v : Json) : Except Refusal Unit :=
  if k = "type" then checkTypes v
  else if k = "enum" then ofTypes ["array"] v
  else if numberKeywords.contains k then ofTypes ["number"] v
  else if sizeKeywords.contains k then checkLimit v
  else if k = "pattern" then checkPattern v
  else if k = "format" ∨ k = "contentMediaType" ∨ k = "contentEncoding" then ofTypes ["string"] v
  else if k = "required" then do
    ofTypes ["array"] v
    ofStrings (v.arr?.getD [])
  else .ok ()

end Refusal

end EntitySchema.Draft7
