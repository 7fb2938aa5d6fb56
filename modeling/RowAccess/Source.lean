import RowAccess.Uuid

/-!
# Sources of clearances

A source tells which tokens are held in a dimension. It has an identity, and it may have a version that
changes whenever a token does. `SourceView` is what a request sees of a source.

Three kinds of tables can be sources. A static table is changed token by token and counts its changes;
a function has no version; a table of the host has the identity and the version that the host gives it.
For identities that are given at random the numbers of the sources stand, on the assumption that no two
of them are equal.
-/

namespace RowAccess

/-- What clearances are reported for, and their state. -/
structure Version where
  origin : Nat
  generation : Nat
deriving Repr, DecidableEq

/-- What tells sources apart. -/
inductive SourceId
  /-- The stack of scopes. -/
  | stack
  /-- A source with an identity of its own, by its number. -/
  | fresh (n : Nat)
  /-- A source whose identity the host chose. -/
  | host (u : Uuid)
deriving DecidableEq

/-- What a request sees of a source. -/
structure SourceView where
  id : SourceId
  version : Option Version
  tokens : String → List String

/-! ### Tables of tokens -/

/-- Lists of tokens by dimension, in order. -/
abbrev TokenTable := List (String × List String)

namespace TokenTable

def tokens (t : TokenTable) (dimension : String) : List String := (t.lookup dimension).getD []

def dimensions (t : TokenTable) : List String := t.map (·.1)

/-- Changes the tokens of a dimension; a dimension that was not there is added with what comes of
none. -/
def change (t : TokenTable) (dimension : String) (f : List String → List String) : TokenTable :=
  match t with
  | [] => [(dimension, f [])]
  | e :: rest =>
      if e.1 = dimension then (dimension, f e.2) :: rest else e :: change rest dimension f

/-- A list with a token at its end, unless it holds it. -/
def withToken (held : List String) (token : String) : List String :=
  if held.contains token then held else held ++ [token]

/-- Adds tokens to a dimension, each of them once. -/
def add (t : TokenTable) (dimension : String) (tokens : List String) : TokenTable :=
  t.change dimension fun held => tokens.foldl withToken held

/-- Sets the tokens of a dimension. -/
def set (t : TokenTable) (dimension : String) (tokens : List String) : TokenTable :=
  t.change dimension fun _ => tokens

def erase (t : TokenTable) (dimension : String) : TokenTable := t.filter fun e => e.1 != dimension

end TokenTable

/-! ### Sources -/

/-- A source other than the stack of scopes. -/
inductive Source
  | static (generation : Nat) (table : TokenTable)
  | function (table : TokenTable)
  | host (id : Uuid) (version : Option Version) (table : TokenTable)

namespace Source

def table : Source → TokenTable
  | static _ t => t
  | function t => t
  | host _ _ t => t

/-- The version that a source reports. -/
def version : Source → Option Version
  | static generation _ => some ⟨0, generation⟩
  | function _ => none
  | host _ v _ => v

/-- The identity of the source with number `n`. -/
def id (n : Nat) : Source → SourceId
  | static _ _ => .fresh n
  | function _ => .fresh n
  | host u _ _ => .host u

def view (n : Nat) (s : Source) : SourceView := ⟨s.id n, s.version, s.table.tokens⟩

/-- Adds a token to a static table. Only a token that was not held counts as a change. -/
def add (dimension token : String) : Source → Source
  | static generation t =>
      static (if (t.tokens dimension).contains token then generation else generation + 1)
        (t.add dimension [token])
  | s => s

/-- Takes all tokens of a dimension out of a static table. -/
def clear (dimension : String) : Source → Source
  | static generation t =>
      if t.dimensions.contains dimension then static (generation + 1) (t.erase dimension)
      else static generation t
  | s => s

/-- Sets the tokens of a dimension of a function or a table of the host. -/
def set (dimension : String) (tokens : List String) : Source → Source
  | static generation t => static generation t
  | function t => function (t.set dimension tokens)
  | host u v t => host u v (t.set dimension tokens)

/-- Sets the version of a table of the host. -/
def setVersion (version : Option Version) : Source → Source
  | host u _ t => host u version t
  | s => s

/-- A static table, filled token by token. -/
def ofTokens (entries : TokenTable) : Source :=
  entries.foldl (fun s e => e.2.foldl (fun s token => s.add e.1 token) s) (static 0 [])

end Source

/-- A table in which a later entry of a dimension replaces an earlier one. -/
def TokenTable.ofEntries (entries : List (String × List String)) : TokenTable :=
  entries.foldl (fun t e => t.set e.1 e.2) []

end RowAccess
