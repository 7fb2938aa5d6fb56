import RowAccess.Unicode.CodeSet

/-!
# Tables under names

A property of the standard, or one value of a property, has several names. They are compared
loosely: case, blanks, hyphens, underscores and a leading `is` do not count, and characters outside
ASCII are dropped.
-/

namespace RowAccess.Unicode

/-- A set of code points as text, under loose names. -/
structure NamedTable where
  names : List String
  text : String
deriving Repr

/-- The table under a loose name. -/
def NamedTable.find? (tables : List NamedTable) (name : String) : Option CodeSet :=
  (tables.find? fun t => t.names.contains name).map fun t => CodeSet.ofText t.text

/-- Lower-case ASCII without blanks, hyphens and underscores. -/
def squeeze (name : List Char) : List Char :=
  (name.filter fun c => c.toNat < 0x80 && c != ' ' && c != '_' && c != '-').map Char.toLower

/-- The loose form of a name. A leading `is` is dropped, unless only `c` is left: `isc` is a name of
its own. -/
def looseName (name : List Char) : String :=
  match name with
  | i :: s :: rest =>
      if i.toLower = 'i' ∧ s.toLower = 's' then
        if squeeze rest = ['c'] then "isc" else String.ofList (squeeze rest)
      else String.ofList (squeeze name)
  | _ => String.ofList (squeeze name)

end RowAccess.Unicode
