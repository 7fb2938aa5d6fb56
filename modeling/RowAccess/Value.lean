import RowAccess.Calendar.Reader
import RowAccess.Fault
import RowAccess.Number.Binary64
import RowAccess.Number.Decimal
import RowAccess.Number.Whole
import RowAccess.Text.Quoted
import RowAccess.Uuid

/-!
# Field values

A field has a kind, and a value has one of the ten kinds that can be classified. `Kind.coerce` reads
the text of a clearance token as a value of a kind; `Value.text` writes a value; `Value.equals` is the
equality by which rows are compared, under which values of two kinds never agree.
-/

namespace RowAccess

open RowAccess.Number (Width Whole Binary64 Decimal)
open RowAccess.Calendar (Instant)

/-- The kind of a field. -/
inductive Kind
  | text
  | whole (w : Width)
  | bool
  | dateTime
  | binary64
  | decimal
  | uuid
  | binary
  | composite
deriving Repr, DecidableEq

namespace Kind

def name : Kind → String
  | text => "text"
  | whole .u8 => "u8"
  | whole .i16 => "i16"
  | whole .i32 => "i32"
  | whole .i64 => "i64"
  | bool => "bool"
  | dateTime => "date_time"
  | binary64 => "f64"
  | decimal => "decimal"
  | uuid => "uuid"
  | binary => "binary"
  | composite => "composite"

/-- The kinds that can carry a classification. -/
def classifiable : List Kind :=
  [text, whole .u8, whole .i16, whole .i32, whole .i64, bool, dateTime, binary64, decimal, uuid]

/-- All kinds. -/
def all : List Kind := classifiable ++ [binary, composite]

def isClassifiable (k : Kind) : Bool := classifiable.contains k

/-- The names of the kinds that can carry a classification. -/
def classifiableNames : String := ", ".intercalate (classifiable.map name)

def ofName? (s : String) : Option Kind := all.find? fun k => k.name = s

end Kind

/-- The value of a classified field. -/
inductive Value
  | text (s : String)
  | whole (w : Width) (n : Whole w)
  | bool (b : Bool)
  | dateTime (i : Instant)
  | binary64 (x : Binary64)
  | decimal (d : Decimal)
  | uuid (u : Uuid)
deriving DecidableEq

namespace Value

def kind : Value → Kind
  | text _ => .text
  | whole w _ => .whole w
  | bool _ => .bool
  | dateTime _ => .dateTime
  | binary64 _ => .binary64
  | decimal _ => .decimal
  | uuid _ => .uuid

/-- Equality of values. Values of different kinds differ; numbers are equal as numbers, so that
decimals may differ in their places, and what is not a number equals nothing. -/
def equals : Value → Value → Bool
  | text a, text b => a == b
  | whole v m, whole w n => decide (v = w) && m.value == n.value
  | bool a, bool b => a == b
  | dateTime a, dateTime b => decide (a = b)
  | binary64 a, binary64 b => a.equals b
  | decimal a, decimal b => a.equals b
  | uuid a, uuid b => decide (a = b)
  | _, _ => false

/-- A value as text; only texts are quoted. -/
def textChars : Value → List Char
  | text s => Text.quoted s.toList
  | whole _ n => n.text
  | bool b => (if b then "true" else "false").toList
  | dateTime i => i.text
  | binary64 x => x.text
  | decimal d => d.text
  | uuid u => u.text

def display (v : Value) : String := String.ofList v.textChars

end Value

/-- The words for truth values, in any case of their letters. -/
def readBool? (s : List Char) : Option Bool :=
  let word := s.map Char.toLower
  if word = "true".toList then some true
  else if word = "false".toList then some false
  else none

/-- Reads the text of a token as a value of a kind, or says why it is none. -/
def Kind.read? (k : Kind) (token : String) : Except String Value :=
  let s := token.toList
  match k with
  | .text => .ok (.text token)
  | .whole w => ((Whole.read? w s).mapError Whole.Fault.reason).map (Value.whole w)
  | .bool =>
      match readBool? s with
      | some b => .ok (.bool b)
      | none => .error "expected 'true' or 'false'"
  | .dateTime =>
      match Instant.read? s with
      | some i => .ok (.dateTime i)
      | none => .error "unrecognized date-time format"
  | .binary64 => ((Binary64.read? s).mapError Binary64.Fault.reason).map Value.binary64
  | .decimal => ((Decimal.read? s).mapError Decimal.Fault.reason).map Value.decimal
  | .uuid => ((Uuid.read? s).mapError Uuid.Fault.reason).map Value.uuid
  | .binary => .error "kind cannot carry a classification"
  | .composite => .error "kind cannot carry a classification"

/-- Reads the text of a token as the value of a field. -/
def Kind.coerce (k : Kind) (field token : String) : Except Fault Value :=
  (k.read? token).mapError fun reason => .valueCoercion field k.name token reason

end RowAccess
