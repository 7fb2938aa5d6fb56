import RowAccess.Data
import RowAccess.NameMap
import RowAccess.Number.Digits
import RowAccess.Text.Quoted

/-!
# Shapes of data

Reading data as something definite: a text, a list, one choice of several, or a record with known
fields. Each reader says what was found and what was wanted instead. The first mismatch in the order
of the document counts.

A record may also be given as a list of its fields in order, and a choice as a table whose only key
is the choice. How strictly that is taken is a matter of the dialect.
-/

namespace RowAccess

open RowAccess.Number (Binary64)

/-- Why data does not have a wanted shape. -/
inductive Mismatch
  | wrongType (found wanted : String)
  | unknownField (name : String) (known : List String)
  | missingField (name : String)
  | unknownChoice (name : String) (known : List String)
  | neitherTextNorTable
  | malformed
deriving Repr, DecidableEq

namespace Mismatch

/-- A name between the quotes of messages. -/
def ticked (name : String) : String := "`" ++ name ++ "`"

/-- What would have been accepted. -/
def oneOf (known : List String) : String :=
  match known with
  | [] => "nothing"
  | [a] => ticked a
  | [a, b] => ticked a ++ " or " ++ ticked b
  | _ => "one of " ++ ", ".intercalate (known.map ticked)

def message : Mismatch → String
  | wrongType found wanted => "invalid type: " ++ found ++ ", expected " ++ wanted
  | unknownField name known => "unknown field " ++ ticked name ++ ", expected " ++ oneOf known
  | missingField name => "missing field " ++ ticked name
  | unknownChoice name known => "unknown variant " ++ ticked name ++ ", expected " ++ oneOf known
  | neitherTextNorTable => "wanted string or table"
  | malformed => "syntax"

/-- How the messages begin that tell of a shape. -/
def beginnings : List String :=
  ["unknown field `", "missing field `", "unknown variant `", "invalid type: ",
    "wanted string or table"]

/-- The part of a text after its last line break. -/
def lastLine (s : List Char) : List Char := (s.reverse.takeWhile (· != '\n')).reverse

/-- The last line of the message if it tells of a shape by itself, and one word otherwise. -/
def line (m : Mismatch) : String :=
  let last := lastLine m.message.toList
  if beginnings.any fun b => b.toList.isPrefixOf last then String.ofList last
  else malformed.message

end Mismatch

/-- What ways of writing records and choices a kind of document allows. -/
structure Dialect where
  /-- A list may have more items than the record has fields. -/
  spareItems : Bool
  /-- What may stand behind a choice that has no content. -/
  isNothing : Data → Bool

namespace Data

/-- The key under which a moment shows its text when it is taken for a table. -/
def momentKey : String := "$__toml_private_datetime"

/-- A real number with a point in its text. -/
def pointedText (x : Binary64) : List Char :=
  match x with
  | .finite .. => if x.text.contains '.' then x.text else x.text ++ ".0".toList
  | _ => x.text

/-- What a piece of data is called where another was wanted. -/
def called : Data → String
  | null => "null"
  | bool b => "boolean " ++ Mismatch.ticked (if b then "true" else "false")
  | whole n => "integer " ++ Mismatch.ticked (String.ofList (Number.signed n))
  | real x => "floating point " ++ Mismatch.ticked (String.ofList (pointedText x))
  | text s => "string " ++ String.ofList (Text.quoted s.toList)
  | moment _ => "map"
  | list _ => "sequence"
  | table _ => "map"

def asText : Data → Except Mismatch String
  | text s => .ok s
  | d => .error (.wrongType d.called "a string")

/-- A list whose items are read one by one. -/
def asListOf {α : Type} (item : Data → Except Mismatch α) : Data → Except Mismatch (List α)
  | list ds => ds.mapM item
  | d => .error (.wrongType d.called "a sequence")

/-- The entries of what counts as a table. -/
def tableView? : Data → Option (List (String × Data))
  | table es => some es
  | moment s => some [(momentKey, text s)]
  | _ => none

/-- A table of texts. -/
def asNameMap (d : Data) : Except Mismatch NameMap :=
  match d.tableView? with
  | some es => do
      let texts ← es.mapM fun (e : String × Data) => e.2.asText.map (e.1, ·)
      return NameMap.ofList texts
  | none => .error (.wrongType d.called "a map")

/-- What may be left out by writing nothing in its place. -/
def asOptional {α : Type} (content : Data → Except Mismatch α) : Data → Except Mismatch (Option α)
  | null => .ok none
  | d => (content d).map some

/-- One of several choices, with what stands behind it. -/
def asChoice (known : List String) (d : Data) : Except Mismatch (String × Option Data) :=
  let pick (name : String) (content : Option Data) : Except Mismatch (String × Option Data) :=
    if known.contains name then .ok (name, content) else .error (.unknownChoice name known)
  match d with
  | text s => pick s none
  | table [(key, content)] => pick key (some content)
  | table _ => .error .malformed
  | _ => .error .neitherTextNorTable

/-- A choice without content. -/
def asPlainChoice (dialect : Dialect) (known : List String) (d : Data) : Except Mismatch String := do
  let (name, content) ← d.asChoice known
  if content.all dialect.isNothing then return name else .error .malformed

/-- A record, read field by field into `s`. An unknown field is refused when `strict` asks for it. -/
def foldRecord {σ : Type} (dialect : Dialect) (strict : Bool) (name : String) (known : List String)
    (set : σ → String → Data → Except Mismatch σ) (s : σ) (d : Data) : Except Mismatch σ :=
  match d.tableView?, d with
  | some es, _ =>
      es.foldlM
        (fun s e =>
          if known.contains e.1 then set s e.1 e.2
          else if strict then .error (.unknownField e.1 known)
          else .ok s)
        s
  | none, list ds => do
      let s ← (known.zip ds).foldlM (fun s e => set s e.1 e.2) s
      if dialect.spareItems || ds.length ≤ known.length then return s else .error .malformed
  | none, _ => .error (.wrongType d.called ("struct " ++ name))

/-- A record of texts, all of them required, in the order of the fields. -/
def asTexts (dialect : Dialect) (strict : Bool) (name : String) (known : List String) (d : Data) :
    Except Mismatch (List String) := do
  let found ←
    d.foldRecord dialect strict name known
      (fun (found : List (String × String)) field content => do
        return found ++ [(field, ← content.asText)])
      []
  known.mapM fun field =>
    match found.lookup field with
    | some s => .ok s
    | none => .error (if d matches list _ then .malformed else .missingField field)

end Data

end RowAccess
