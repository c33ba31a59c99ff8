import EntitySchema.Draft7.Failure
import EntitySchema.Draft7.Format
import EntitySchema.Draft7.Parts
import EntitySchema.Json.Reader
import EntitySchema.Text.Base64

/-!
# Keywords

What each keyword of a schema has to say about a value. A keyword is silent about values of other
types than its own.

Every function takes the place of the schema object it stands in, and the value; `keyword` chooses
among them by name and ignores names it does not know.
-/

namespace EntitySchema.Draft7

/-- One complaint at a place, unless all is well. -/
def report (place : Pointer) (ok : Bool) (c : Complaint) : List Failure :=
  if ok then [] else [⟨[], place, c⟩]

theorem report_eq_nil {place : Pointer} {ok : Bool} {c : Complaint} :
    report place ok c = [] ↔ ok = true := by
  unfold report
  split <;> simp_all

/-- What a part of a schema says about a value. -/
abbrev Verdict := Json → List Failure

/-! ## Any value -/

def typeNames : List String := ["array", "boolean", "integer", "null", "number", "object", "string"]

/-- Whether a value has a type. A number without a fraction is an integer, however it is written. -/
def hasType (type : String) : Json → Bool
  | .null => type == "null"
  | .bool _ => type == "boolean"
  | .num n => type == "number" || (type == "integer" && n.isWhole)
  | .str _ => type == "string"
  | .arr _ => type == "array"
  | .obj _ => type == "object"

/-- The types a schema asks for; several come in alphabetical order. -/
def typesOf (v : Json) : List String :=
  match v with
  | .str t => [t]
  | .arr [.str t] => [t]
  | v => typeNames.filter fun t => v.strings.contains t

def typeCheck (want : Json) : Check := fun place v =>
  let types := typesOf want
  report (place ++ [Step.key "type"]) (types.any (hasType · v)) (.wrongType v types)

def enumCheck (values : List Json) : Check := fun place v =>
  report (place ++ [Step.key "enum"]) (values.any (Json.equal v)) (.notOneOf v values)

def constCheck (c : Json) : Check := fun place v =>
  report (place ++ [Step.key "const"]) (Json.equalConst c v) (.notConst c)

/-! ## Numbers -/

/-- A bound on numbers: `fails` says which ones are beyond the limit. -/
def boundCheck (name : String) (fails : Number → Number → Bool)
    (complaint : Json → Json → Complaint) (limit : Json) : Check := fun place v =>
  match v, limit with
  | .num n, .num l => report (place ++ [Step.key name]) (!fails n l) (complaint v limit)
  | _, _ => []

def multipleCheck (divisor : Json) : Check := fun place v =>
  match v, divisor with
  | .num n, .num d => report (place ++ [Step.key "multipleOf"]) (n.isMultiple d) (.notMultiple v d)
  | _, _ => []

/-! ## Sizes -/

/-- The length of a string in characters, the number of items of an array, or the number of members
of an object. -/
def sizeAs (type : String) : Json → Option Nat
  | .str s => if type = "string" then some s.length else none
  | .arr xs => if type = "array" then some xs.length else none
  | .obj ms => if type = "object" then some ms.length else none
  | _ => none

/-- A lower or upper bound on the size of values of one type. -/
def sizeCheck (name type : String) (ok : Nat → Nat → Bool) (complaint : Json → Nat → Complaint)
    (limit : Json) : Check := fun place v =>
  match sizeAs type v, limit with
  | some n, .num l => match l.toLimit? with
    | some l => report (place ++ [Step.key name]) (ok n l) (complaint v l)
    | none => []
  | _, _ => []

/-! ## Strings -/

def patternCheck (pattern : Json) : Check := fun place v =>
  match v, pattern with
  | .str s, .str p => report (place ++ [Step.key "pattern"]) (Pattern.isMatch p s) (.noMatch v p)
  | _, _ => []

def formatCheck (format : Json) : Check := fun place v =>
  match v, format with
  | .str s, .str f => report (place ++ [Step.key "format"]) (Format.admits f s) (.wrongFormat v f)
  | _, _ => []

/-! ### Contents

A string may stand for something else: bytes that are encoded in it, or a document. One media type
and one encoding are known. -/

def isJson (text : String) : Bool := (Json.parse text).toOption.isSome

/-- The media type of a string, or of the text that is encoded in it. -/
def mediaTypeCheck (ps : Parts Verdict) (type : Json) : Check := fun place v =>
  let here := place ++ [Step.key "contentMediaType"]
  match v, type with
  | .str s, .str "application/json" =>
    match (ps.get? "contentEncoding").map Part.value with
    | none => report here (isJson s) (.wrongMediaType v "application/json")
    | some (.str "base64") =>
      match Text.Base64.decode? s.toList with
      | none => [⟨[], place ++ [Step.key "contentEncoding"], .wrongEncoding v "base64"⟩]
      | some bytes =>
        match Text.Utf8.fault? bytes with
        | some fault => [⟨[], [], .notUtf8 fault⟩]
        | none => report here ((String.fromUTF8? ⟨bytes.toArray⟩).any isJson)
            (.wrongMediaType v "application/json")
    | some _ => []
  | _, _ => []

/-- The encoding of a string, unless its media type looks after it. -/
def encodingCheck (ps : Parts Verdict) (encoding : Json) : Check := fun place v =>
  match v, encoding with
  | .str s, .str "base64" =>
    if (ps.get? "contentMediaType").isSome then []
    else report (place ++ [Step.key "contentEncoding"]) (Text.Base64.decode? s.toList).isSome
      (.wrongEncoding v "base64")
  | _, _ => []

/-! ## Arrays -/

/-- Checks an item; the failures are those of the array. -/
def itemFailures (verdict : Verdict) (i : Nat) (v : Json) : List Failure :=
  (verdict v).map (Failure.below (.index i))

def itemsCheck (part : Part Verdict) : Check := fun place v =>
  match v with
  | .arr xs =>
    if isSchema part.value then
      xs.zipIdx.flatMap fun (x, i) => itemFailures (part.self (place ++ [Step.key "items"])) i x
    else
      (xs.zip part.items).zipIdx.flatMap fun ((x, s), i) =>
        itemFailures (s (place ++ [Step.key "items", .index i])) i x
  | _ => []

/-- Looks after the items that a list under `items` leaves over. Where `items` is `false`, it lets
no value pass, whatever stands here. -/
def additionalItemsCheck (ps : Parts Verdict) (part : Part Verdict) : Check := fun place v =>
  let here := place ++ [Step.key "additionalItems"]
  match (ps.get? "items").map Part.value, v with
  | some (.bool false), v => [⟨[], here, .falseSchema v⟩]
  | some (.arr listed), .arr xs =>
    let extra := xs.zipIdx.drop listed.length
    match part.value with
    | .bool false => report here extra.isEmpty (.additionalItems (extra.map Prod.fst))
    | .obj _ => extra.flatMap fun (x, i) => itemFailures (part.self here) i x
    | _ => []
  | _, _ => []

def uniqueCheck (want : Json) : Check := fun place v =>
  match v, want with
  | .arr xs, .bool true =>
    report (place ++ [Step.key "uniqueItems"]) (Json.allDistinct xs) (.notUnique v)
  | _, _ => []

def containsCheck (part : Part Verdict) : Check := fun place v =>
  match v with
  | .arr xs =>
    report (place ++ [Step.key "contains"])
      (xs.any fun x => (part.self (place ++ [Step.key "contains"]) x).isEmpty) (.containsNone v)
  | _ => []

/-! ## Objects -/

/-- Checks the value of a member; the failures are those of the object. -/
def memberFailures (verdict : Verdict) (k : String) (v : Json) : List Failure :=
  (verdict v).map (Failure.below (.key k))

/-- One complaint for each name that the object does not have. -/
def missingFailures (place : Pointer) (names : List String) (ms : Members) : List Failure :=
  names.flatMap fun n => report place (Members.has ms n) (.missing n)

def requiredCheck (names : Json) : Check := fun place v =>
  match v with
  | .obj ms => missingFailures (place ++ [Step.key "required"]) names.strings ms
  | _ => []

/-- The failures of a member that `properties` lists. -/
def listedFailures (ps : Parts Verdict) (place : Pointer) (k : String) (v : Json) :
    Option (List Failure) :=
  (Members.get? (ps.named "properties") k).map fun s =>
    memberFailures (s (place ++ [Step.key "properties", .key k])) k v

/-- Whether a pattern matches a key. Here `\d`, `\w` and `\s` are classes of Unicode. -/
def keyMatches (pattern key : String) : Bool := (Pattern.parse? pattern).any (·.search key)

/-- The patterns that match a key, with the verdicts they ask for. -/
def matching (ps : Parts Verdict) (place : Pointer) (k : String) : List Verdict :=
  (ps.named "patternProperties").filterMap fun m =>
    if keyMatches m.1 k then some (m.2 (place ++ [Step.key "patternProperties", .key m.1]))
    else none

def propertiesCheck (ps : Parts Verdict) : Check := fun place v =>
  match v with
  | .obj ms =>
    if ps.closesProperties then []
    else (ps.named "properties").flatMap fun m =>
      match Members.get? ms m.1 with
      | some w => memberFailures (m.2 (place ++ [Step.key "properties", .key m.1])) m.1 w
      | none => []
  | _ => []

def patternPropertiesCheck (ps : Parts Verdict) : Check := fun place v =>
  match v with
  | .obj ms =>
    if ps.closesProperties then []
    else (ps.named "patternProperties").flatMap fun m =>
      (ms.filter fun w => keyMatches m.1 w.1).flatMap fun w =>
        memberFailures (m.2 (place ++ [Step.key "patternProperties", .key m.1])) w.1 w.2
  | _ => []

/-- The members that neither `properties` lists nor a pattern matches. -/
def unlisted (ps : Parts Verdict) (ms : Members) : Members :=
  ms.filter fun m => !Members.has (ps.named "properties") m.1
    && (matching ps [] m.1).isEmpty

/-- The failures of one member where `additionalProperties` looks after all of them: those of its
listed schema, then those of the matching patterns, or else those of `other`. -/
def closedFailures (ps : Parts Verdict) (place : Pointer) (other : Option Verdict)
    (k : String) (v : Json) : List Failure :=
  let patterns := matching ps place k
  match listedFailures ps place k v with
  | some fs => fs ++ patterns.flatMap fun p => memberFailures p k v
  | none =>
    if patterns.isEmpty then
      match other with
      | some s => memberFailures s k v
      | none => []
    else patterns.flatMap fun p => memberFailures p k v

def additionalPropertiesCheck (ps : Parts Verdict) (part : Part Verdict) : Check := fun place v =>
  let here := place ++ [Step.key "additionalProperties"]
  match v with
  | .obj ms =>
    match part.value with
    | .obj _ => ms.flatMap fun m => closedFailures ps place (some (part.self here)) m.1 m.2
    | .bool false =>
      if (ps.get? "properties").isNone && (ps.get? "patternProperties").isNone then
        match ms with
        | [] => []
        | m :: _ => [⟨[], here, .falseSchema m.2⟩]
      else
        let others := unlisted ps ms
        (ms.flatMap fun m => closedFailures ps place none m.1 m.2)
          ++ report here others.isEmpty (.additionalProperties (Members.keys others))
    | _ => []
  | _ => []

def propertyNamesCheck (part : Part Verdict) : Check := fun place v =>
  let here := place ++ [Step.key "propertyNames"]
  match v with
  | .obj ms =>
    if part.value = .bool false then report here ms.isEmpty (.falseSchema v)
    else ms.flatMap fun m => part.self here (.str m.1)
  | _ => []

def dependenciesCheck (part : Part Verdict) : Check := fun place v =>
  match v with
  | .obj ms =>
    ((part.value.obj?.getD []).zip part.members).flatMap fun (dep, s) =>
      if Members.has ms dep.1 then
        match dep.2 with
        | .arr names => missingFailures (place ++ [Step.key "dependencies"])
            (Json.strings (.arr names)) ms
        | _ => s.2 (place ++ [Step.key "dependencies", .key dep.1]) v
      else []
  | _ => []

/-! ## Combinations -/

/-- The verdicts of the schemas in a list. -/
def branches (part : Part Verdict) (place : Pointer) (k : String) : List Verdict :=
  part.items.zipIdx.map fun (s, i) => s (place ++ [Step.key k, .index i])

def allOfCheck (part : Part Verdict) : Check := fun place v =>
  (branches part place "allOf").flatMap fun s => s v

def anyOfCheck (part : Part Verdict) : Check := fun place v =>
  report (place ++ [Step.key "anyOf"]) ((branches part place "anyOf").any fun s => (s v).isEmpty)
    (.noneValid v "anyOf")

def oneOfCheck (part : Part Verdict) : Check := fun place v =>
  let here := place ++ [Step.key "oneOf"]
  match (branches part place "oneOf").filter fun s => (s v).isEmpty with
  | [] => [⟨[], here, .noneValid v "oneOf"⟩]
  | [_] => []
  | _ => [⟨[], here, .severalValid v⟩]

def notCheck (part : Part Verdict) : Check := fun place v =>
  let here := place ++ [Step.key "not"]
  report here (!(part.self here v).isEmpty) (.notAllowed part.value v)

def ifCheck (ps : Parts Verdict) (part : Part Verdict) : Check := fun place v =>
  let branch (k : String) : List Failure :=
    match ps.get? k with
    | some p => p.self (place ++ [Step.key k]) v
    | none => []
  if (part.self (place ++ [Step.key "if"]) v).isEmpty then branch "then" else branch "else"

/-! ## By name -/

/-- What the keyword `k` says about a value. -/
def keyword (ps : Parts Verdict) (k : String) (part : Part Verdict) : Check :=
  let v := part.value
  if k = "type" then typeCheck v
  else if k = "enum" then enumCheck (v.arr?.getD [])
  else if k = "const" then constCheck v
  else if k = "minimum" then boundCheck k (fun n l => n.lt l) .belowMinimum v
  else if k = "maximum" then boundCheck k (fun n l => l.lt n) .aboveMaximum v
  else if k = "exclusiveMinimum" then boundCheck k (fun n l => !l.lt n) .notAboveMinimum v
  else if k = "exclusiveMaximum" then boundCheck k (fun n l => !n.lt l) .notBelowMaximum v
  else if k = "multipleOf" then multipleCheck v
  else if k = "minLength" then sizeCheck k "string" (fun n l => l ≤ n) .tooShort v
  else if k = "maxLength" then sizeCheck k "string" (fun n l => n ≤ l) .tooLong v
  else if k = "pattern" then patternCheck v
  else if k = "format" then formatCheck v
  else if k = "contentMediaType" then mediaTypeCheck ps v
  else if k = "contentEncoding" then encodingCheck ps v
  else if k = "items" then itemsCheck part
  else if k = "additionalItems" then additionalItemsCheck ps part
  else if k = "minItems" then sizeCheck k "array" (fun n l => l ≤ n) .tooFewItems v
  else if k = "maxItems" then sizeCheck k "array" (fun n l => n ≤ l) .tooManyItems v
  else if k = "uniqueItems" then uniqueCheck v
  else if k = "contains" then containsCheck part
  else if k = "minProperties" then sizeCheck k "object" (fun n l => l ≤ n) .tooFewProperties v
  else if k = "maxProperties" then sizeCheck k "object" (fun n l => n ≤ l) .tooManyProperties v
  else if k = "required" then requiredCheck v
  else if k = "properties" then propertiesCheck ps
  else if k = "patternProperties" then patternPropertiesCheck ps
  else if k = "additionalProperties" then additionalPropertiesCheck ps part
  else if k = "propertyNames" then propertyNamesCheck part
  else if k = "dependencies" then dependenciesCheck part
  else if k = "allOf" then allOfCheck part
  else if k = "anyOf" then anyOfCheck part
  else if k = "oneOf" then oneOfCheck part
  else if k = "not" then notCheck part
  else if k = "if" then ifCheck ps part
  else fun _ _ => []

end EntitySchema.Draft7
