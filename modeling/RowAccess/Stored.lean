import RowAccess.Config
import RowAccess.Token
import RowAccess.Value

/-!
# Stored forms

How values, kinds, tokens, matchers, faults and configurations are kept as data, and how they are read
back. A choice with content is a table with the name of the choice as its only key; a choice without
content is its name. What is written can be read again, though a number may also be read from forms
in which it is not written.
-/

namespace RowAccess

open RowAccess.Number (Width Whole Binary64 Decimal)
open RowAccess.Calendar (Instant)

/-- Lists must fit their records, and null stands for nothing. -/
def storedDialect : Dialect where
  spareItems := false
  isNothing
    | .null => true
    | _ => false

/-- A choice with its content. -/
def Data.tagged (name : String) (content : Data) : Data := .table [(name, content)]

namespace Value

def tags : List String :=
  ["Text", "U8", "I16", "I32", "I64", "Bool", "DateTime", "F64", "Decimal", "Uuid"]

/-- The tag of a number of a width. -/
def wholeTag : Width → String
  | .u8 => "U8"
  | .i16 => "I16"
  | .i32 => "I32"
  | .i64 => "I64"

def wholeOf? (w : Width) : Data → Option Value
  | .whole n => (Whole.ofInt? w n).map (Value.whole w)
  | _ => none

def binary64Of? : Data → Option Value
  | .whole n => some (.binary64 (.ofInt n))
  | .real x => some (.binary64 x)
  | _ => none

/-- A decimal is read from its text, from a whole number, or from the text of a real number. -/
def decimalOf? : Data → Option Value
  | .text s => (Decimal.read? s.toList).toOption.map Value.decimal
  | .whole n => (Decimal.ofInt? n).map Value.decimal
  | .real x => (Decimal.read? x.text).toOption.map Value.decimal
  | _ => none

/-- The content of a tag. -/
def ofContent? (tag : String) (d : Data) : Option Value :=
  match tag, d with
  | "Text", .text s => some (.text s)
  | "U8", d => wholeOf? .u8 d
  | "I16", d => wholeOf? .i16 d
  | "I32", d => wholeOf? .i32 d
  | "I64", d => wholeOf? .i64 d
  | "Bool", .bool b => some (.bool b)
  | "DateTime", .text s => (Instant.readStored? s.toList).map Value.dateTime
  | "F64", d => binary64Of? d
  | "Decimal", d => decimalOf? d
  | "Uuid", .text s => (Uuid.read? s.toList).toOption.map Value.uuid
  | _, _ => none

def ofStored? (d : Data) : Option Value :=
  match d.asChoice tags with
  | .ok (tag, some content) => ofContent? tag content
  | _ => none

def toStored : Value → Data
  | text s => .tagged "Text" (.text s)
  | whole w n => .tagged (wholeTag w) (.whole n.value)
  | bool b => .tagged "Bool" (.bool b)
  | dateTime i => .tagged "DateTime" (.text (String.ofList i.storedText))
  | binary64 x => .tagged "F64" (.text (String.ofList x.text))
  | decimal d => .tagged "Decimal" (.text (String.ofList d.text))
  | uuid u => .tagged "Uuid" (.text (String.ofList u.text))

end Value

namespace Kind

def ofStored? (d : Data) : Option Kind :=
  (d.asPlainChoice storedDialect (all.map name)).toOption.bind ofName?

def toStored (k : Kind) : Data := .text k.name

end Kind

namespace Token

def tags : List String := ["Allow", "AllowAll", "Deny", "DenyAll"]

def ofStored? (d : Data) : Option Token :=
  match d.asChoice tags with
  | .ok ("Allow", some (.text s)) => some (.allow s)
  | .ok ("Deny", some (.text s)) => some (.deny s)
  | .ok ("AllowAll", content) => if content.all storedDialect.isNothing then some .allowAll else none
  | .ok ("DenyAll", content) => if content.all storedDialect.isNothing then some .denyAll else none
  | _ => none

def toStored : Token → Data
  | allow s => .tagged "Allow" (.text s)
  | allowAll => .text "AllowAll"
  | deny s => .tagged "Deny" (.text s)
  | denyAll => .text "DenyAll"

end Token

namespace Matcher

def ofStored? (d : Data) : Option Matcher := (ofData? storedDialect d).toOption

def toStored (m : Matcher) : Data := .text m.name

end Matcher

namespace Fault

/-- The name of the cause of a fault. -/
def name : Fault → String
  | unknownEntityType .. => "UnknownEntityType"
  | unknownField .. => "UnknownField"
  | foreignField .. => "ForeignField"
  | unsupportedFieldKind .. => "UnsupportedFieldKind"
  | conflictingClassification .. => "ConflictingClassification"
  | malformedSelector .. => "MalformedSelector"
  | valueCoercion .. => "ValueCoercion"
  | missingClearanceSource => "MissingClearanceSource"
  | config .. => "Config"

/-- What a fault tells, by names and in order. -/
def details : Fault → List (String × String)
  | unknownEntityType entity => [("entity", entity)]
  | unknownField entity field => [("entity", entity), ("field", field)]
  | foreignField entity field declaredBy =>
      [("entity", entity), ("field", field), ("declared_by", declaredBy)]
  | unsupportedFieldKind entity field kind supported =>
      [("entity", entity), ("field", field), ("kind", kind), ("supported", supported)]
  | conflictingClassification entity field existing requested =>
      [("entity", entity), ("field", field), ("existing", existing), ("requested", requested)]
  | malformedSelector selector reason => [("selector", selector), ("reason", reason)]
  | valueCoercion field kind token reason =>
      [("field", field), ("kind", kind), ("token", token), ("reason", reason)]
  | missingClearanceSource => []
  | config message => [("message", message)]

/-- One fault of each cause, which tells nothing. -/
def blanks : List Fault :=
  [.unknownEntityType "", .unknownField "" "", .foreignField "" "" "",
    .unsupportedFieldKind "" "" "" "", .conflictingClassification "" "" "" "",
    .malformedSelector "" "", .valueCoercion "" "" "" "", .missingClearanceSource, .config ""]

/-- The fault of the same cause that tells the given details. -/
def withDetails? : Fault → List String → Option Fault
  | unknownEntityType _, [a] => some (.unknownEntityType a)
  | unknownField _ _, [a, b] => some (.unknownField a b)
  | foreignField _ _ _, [a, b, c] => some (.foreignField a b c)
  | unsupportedFieldKind _ _ _ _, [a, b, c, d] => some (.unsupportedFieldKind a b c d)
  | conflictingClassification _ _ _ _, [a, b, c, d] => some (.conflictingClassification a b c d)
  | malformedSelector _ _, [a, b] => some (.malformedSelector a b)
  | valueCoercion _ _ _ _, [a, b, c, d] => some (.valueCoercion a b c d)
  | missingClearanceSource, [] => some .missingClearanceSource
  | config _, [a] => some (.config a)
  | _, _ => none

/-- A fault that tells something must be given as a table of it; more than it tells does not count. -/
def ofStored? (d : Data) : Option Fault := do
  let (tag, content) ← (d.asChoice (blanks.map name)).toOption
  let blank ← blanks.find? fun f => f.name == tag
  match blank.details, content with
  | [], content => if content.all storedDialect.isNothing then some blank else none
  | wanted, some (.table es) =>
      let texts ←
        (Data.asTexts storedDialect false tag (wanted.map (·.1)) (.table es)).toOption
      blank.withDetails? texts
  | _, _ => none

def toStored (f : Fault) : Data :=
  match f.details with
  | [] => .text f.name
  | details => .tagged f.name (.table (details.map fun e => (e.1, .text e.2)))

end Fault

namespace Classification

def ofStored? (d : Data) : Option Classification := (ofData? storedDialect d).toOption

def toStored (c : Classification) : Data := .table (c.named.map fun e => (e.1, .text e.2))

end Classification

namespace Config

def ofStored? (d : Data) : Option Config := (ofData? storedDialect d).toOption

def toStored (c : Config) : Data :=
  .table
    [("accessor", (c.accessor.map Data.text).getD .null),
      ("matcher", (c.matcher.map Matcher.toStored).getD .null),
      ("clearances", .table (c.clearances.entries.map fun e => (e.1, .text e.2))),
      ("permissions", .list (c.permissions.map .text)),
      ("classifications", .list (c.classifications.map Classification.toStored))]

end Config

/-- Names in ascending order. -/
def sortedNames (names : List String) : List String := names.mergeSort fun a b => decide (a ≤ b)

end RowAccess
