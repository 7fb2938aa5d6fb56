import RowAccess.Data.Shape
import RowAccess.Data.Toml.Document
import RowAccess.Fault
import RowAccess.FileTree
import RowAccess.Pattern.Matcher
import RowAccess.Text.Blank

/-!
# Configurations

A configuration names the accessor, clearances and permissions of the default scope, the matcher of
permissions, and fields to classify. It is read from a TOML document. `check` refuses empty names;
patterns and the kinds of fields are checked when it is applied.
-/

namespace RowAccess

/-- A field to classify under a dimension. -/
structure Classification where
  entity : String
  field : String
  dimension : String
deriving Repr, DecidableEq

structure Config where
  accessor : Option String
  matcher : Option Matcher
  /-- Lists of tokens by dimension. -/
  clearances : NameMap
  /-- Patterns, with an exclamation mark before those that are denied. -/
  permissions : List String
  classifications : List Classification
deriving DecidableEq

namespace Classification

def fields : List String := ["entity", "field", "dimension"]

/-- Reads a classification. -/
def ofData? (dialect : Dialect) (d : Data) : Except Mismatch Classification := do
  match ← d.asTexts dialect true "ClassificationConfig" fields with
  | [entity, field, dimension] => return ⟨entity, field, dimension⟩
  | _ => .error .malformed

/-- The parts of a classification by their names. -/
def named (c : Classification) : List (String × String) :=
  [("entity", c.entity), ("field", c.field), ("dimension", c.dimension)]

end Classification

/-- Reads the name of a matcher. -/
def Matcher.ofData? (dialect : Dialect) (d : Data) : Except Mismatch Matcher := do
  let name ← d.asPlainChoice dialect (Matcher.all.map Matcher.name)
  match Matcher.ofName? name with
  | some m => return m
  | none => .error .malformed

namespace Config

/-- The configuration that sets nothing. -/
def empty : Config := ⟨none, none, .empty, [], []⟩

def fields : List String := ["accessor", "matcher", "clearances", "permissions", "classifications"]

/-- Sets one field. -/
def setField (dialect : Dialect) (c : Config) (field : String) (d : Data) :
    Except Mismatch Config := do
  match field with
  | "accessor" => return { c with accessor := ← d.asOptional Data.asText }
  | "matcher" => return { c with matcher := ← d.asOptional (Matcher.ofData? dialect) }
  | "clearances" => return { c with clearances := ← d.asNameMap }
  | "permissions" => return { c with permissions := ← d.asListOf Data.asText }
  | "classifications" =>
      return { c with classifications := ← d.asListOf (Classification.ofData? dialect) }
  | _ => return c

/-- Reads a configuration. Every field may be left out. -/
def ofData? (dialect : Dialect) (d : Data) : Except Mismatch Config :=
  d.foldRecord dialect true "Config" fields (setField dialect) empty

/-- A pattern without the mark of its denial. -/
def bare (token : String) : List Char :=
  match token.toList with
  | '!' :: rest => rest
  | s => s

/-- The parts of classifications that must not be blank but are, by their places. -/
def blankParts (cs : List Classification) : List String :=
  cs.zipIdx.flatMap fun (c, i) =>
    (c.named.filter fun part => Text.isBlankText part.2).map fun part =>
      "classifications[" ++ String.ofList (Number.digits i) ++ "]." ++ part.1

/-- Refuses empty names, the first of them that is found. -/
def check (c : Config) : Except Fault Unit :=
  let complain (what : String) : Except Fault Unit := .error (.config (what ++ " must not be empty"))
  if c.accessor.any Text.isBlankText then complain "accessor"
  else if c.clearances.names.any Text.isBlankText then complain "clearance dimension"
  else if c.permissions.any fun token => (bare token).isEmpty then complain "permission"
  else
    match blankParts c.classifications with
    | part :: _ => complain part
    | [] => .ok ()

/-- Lists may be longer than records, and an empty table or list stands for nothing. -/
def tomlDialect : Dialect where
  spareItems := true
  isNothing
    | .table [] => true
    | .list [] => true
    | _ => false

/-- Reads a configuration from a TOML document. -/
def ofToml? (text : String) : Except Fault Config :=
  let invalid (m : Mismatch) : Fault := .config ("Invalid TOML: " ++ m.line)
  match Data.Toml.read? text with
  | none => .error (invalid .malformed)
  | some d => do
      let c ← (ofData? tomlDialect d).mapError invalid
      c.check
      return c

/-- Reads a configuration from what a file holds, shown under a name. -/
def ofFile? (shown : String) (text : Except FileFault String) : Except Fault Config :=
  match text with
  | .ok s => ofToml? s
  | .error f => .error (.config ("Failed to read config file " ++ shown ++ ": " ++ f.reason))

/-- The matcher to use. -/
def matcherOrStandard (c : Config) : Matcher := c.matcher.getD .standard

/-- A list of tokens behind another one. -/
def joinTokens (tokens : String) : Option String → String
  | none => tokens
  | some existing => existing ++ "," ++ tokens

/-- Lays `other` over a configuration: what it sets replaces, and its lists and tokens are added. -/
def overlay (c other : Config) : Config where
  accessor := other.accessor.or c.accessor
  matcher := other.matcher.or c.matcher
  clearances :=
    other.clearances.entries.foldl (fun m e => m.put e.1 (joinTokens e.2)) c.clearances
  permissions := c.permissions ++ other.permissions
  classifications := c.classifications ++ other.classifications

end Config

end RowAccess
