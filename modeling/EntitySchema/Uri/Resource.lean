import EntitySchema.Uri.Reference

/-!
# Names of resources

The part of a reference before the fragment names a resource. It may be relative to the name of
another resource; `resolve` puts in the parts that are missing. Names are kept in normal form: no
dots on the path, the host in lower case, and no escapes that are not needed.

A name without an authority whose path does not begin with a slash, such as `urn:a`, has no
directories, and nothing but the empty reference is relative to it.
-/

namespace EntitySchema.Uri

/-- The name of a resource in normal form. -/
structure Resource where
  scheme : List Char
  authority : Option (List Char)
  path : List Char
  query : Option (List Char)
deriving DecidableEq, Repr

/-- A resource, or a place in it that a fragment names. -/
structure Locator where
  resource : Resource
  fragment : Option (List Char)
deriving DecidableEq, Repr

/-- Locators with one normal form name one place. -/
def Locator.normal (l : Locator) : Locator := { l with fragment := l.fragment.map normalize }

/-! ## Paths -/

/-- Takes the dots out of the names on a path; `before` are the names so far, the last one first. A
path that ends in dots names a directory. -/
def straight (before : List (List Char)) : List (List Char) → List (List Char)
  | [] => before.reverse
  | name :: rest =>
    let here := name = ['.']
    let up := name = ['.', '.']
    let before := if here then before else if up then before.tail else name :: before
    straight (if rest.isEmpty ∧ (here ∨ up) then [] :: before else before) rest

/-- The path from the top with some names on it. -/
def rooted (names : List (List Char)) : List Char := '/' :: ['/'].intercalate (straight [] names)

/-- A path without its dots, if it begins at the top. -/
def settle (path : List Char) : List Char :=
  match path with
  | '/' :: rest => rooted (Text.splitOn '/' rest)
  | path => path

/-- The names of the directories on a path from the top. -/
def directories (path : List Char) : List (List Char) := (Text.splitOn '/' path.tail).dropLast

/-! ## Parts of names -/

/-- The parts of a name that may be relative. -/
structure Name where
  scheme : Option (List Char)
  authority : Option (List Char)
  path : List Char
  query : Option (List Char)
deriving DecidableEq, Repr

namespace Name

/-- The parts of a name behind its scheme. -/
def behind (scheme query : Option (List Char)) (text : List Char) : Name :=
  match text with
  | '/' :: '/' :: rest =>
    let host := rest.takeWhile (· ≠ '/')
    ⟨scheme, some (normalize (host.map Char.toLower)), normalize (rest.drop host.length), query⟩
  | path => ⟨scheme, none, normalize path, query⟩

/-- The parts of a reference without a fragment. -/
def ofChars (text : List Char) : Name :=
  let front := text.takeWhile (· ≠ '?')
  let query := (text.drop front.length).tail?.map normalize
  let scheme := front.takeWhile isSchemeChar
  match front.drop scheme.length with
  | ':' :: rest => behind (some (scheme.map Char.toLower)) query rest
  | _ => behind none query front

end Name

/-! ## Relative names -/

namespace Resource

/-- Whether names can be relative to this one. -/
def hasDirectories (r : Resource) : Bool := r.authority.isSome || r.path.head? = some '/'

/-- What a name without a scheme means beside the name of another resource. -/
def beside (base : Resource) (name : Name) : Resource :=
  if name.authority.isSome then ⟨base.scheme, name.authority, settle name.path, name.query⟩
  else
    let path := match name.path with
      | [] => base.path
      | '/' :: rest => rooted (Text.splitOn '/' rest)
      | path => rooted (directories base.path ++ Text.splitOn '/' path)
    ⟨base.scheme, base.authority, path, name.query⟩

theorem hasDirectories_beside {base : Resource} (h : base.hasDirectories = true) (name : Name) :
    (base.beside name).hasDirectories = true := by
  unfold beside
  split
  · next host => simp [hasDirectories, host]
  · cases path : name.path with
    | nil => simpa [hasDirectories] using h
    | cons c rest =>
      have top : ∀ names, (rooted names).head? = some '/' := fun _ => rfl
      by_cases hc : c = '/' <;> simp [hasDirectories, hc, top]

end Resource

/-- The resource that a reference without a fragment names in another one. -/
def resolve (base : Resource) (text : List Char) : Option Resource :=
  if text = [] then some base
  else
    let name := Name.ofChars text
    match name.scheme with
    | some scheme => some ⟨scheme, name.authority, settle name.path, name.query⟩
    | none => if base.hasDirectories then some (base.beside name) else none

/-- What names a resource in one resource names one in every resource with directories. -/
theorem exists_resolve {b c r : Resource} {text : List Char} (h : resolve b text = some r)
    (hc : c.hasDirectories = true) :
    ∃ r', resolve c text = some r' ∧ (r' = r ∨ r'.hasDirectories = true) := by
  unfold resolve at h ⊢
  by_cases empty : text = []
  · exact ⟨c, if_pos empty, .inr hc⟩
  · simp only [empty, if_false, hc, if_true] at h ⊢
    cases scheme : (Name.ofChars text).scheme with
    | some s =>
      rw [scheme] at h
      exact ⟨r, h, .inl rfl⟩
    | none => exact ⟨_, rfl, .inr (Resource.hasDirectories_beside hc _)⟩

example : resolve ⟨"http".toList, some ['a'], "/b/c/d".toList, none⟩ "../e?f".toList =
    some ⟨"http".toList, some ['a'], "/b/e".toList, some ['f']⟩ := by decide
example : resolve ⟨"urn".toList, none, ['a'], none⟩ ['b'] = none := by decide

end EntitySchema.Uri
