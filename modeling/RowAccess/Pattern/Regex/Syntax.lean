/-!
# The parts of a regular expression

`Node` is what a written expression says, piece by piece; `Fault` is every reason why a text is no
expression. Bracketed classes have a grammar of their own (`ClassItem`, `ClassSet`).
-/

namespace RowAccess.Pattern.Regex

/-- Why a text is refused. -/
inductive Fault
  | classEscapeInvalid
  | classRangeInvalid
  | classRangeLiteral
  | classUnclosed
  | countInvalid
  | countMissing
  | countRangeInvalid
  | countUnclosed
  | hexEmpty
  | hexInvalid
  | hexDigitInvalid
  | escapeUnexpectedEnd
  | escapeUnrecognized
  | flagDanglingNegation
  | flagDuplicate
  | flagRepeatedNegation
  | flagUnexpectedEnd
  | flagUnrecognized
  | groupNameDuplicate
  | groupNameEmpty
  | groupNameInvalid
  | groupNameUnexpectedEnd
  | groupUnclosed
  | groupUnopened
  | nestedTooDeeply (limit : Nat)
  | repetitionMissing
  | wordBoundaryUnclosed
  | wordBoundaryUnrecognized
  | wordBoundaryUnexpectedEnd
  | propertyLetterInvalid
  | backreference
  | lookAround
  | unicodeNotAllowed
  | invalidUtf8
  | propertyNotFound
  | propertyValueNotFound
  | tooLarge (limit : Nat)
deriving Repr, DecidableEq

/-- The last line of the explanation of a fault. -/
def Fault.reason : Fault → String
  | classEscapeInvalid => "error: invalid escape sequence found in character class"
  | classRangeInvalid => "error: invalid character class range, the start must be <= the end"
  | classRangeLiteral => "error: invalid range boundary, must be a literal"
  | classUnclosed => "error: unclosed character class"
  | countInvalid => "error: decimal literal invalid"
  | countMissing => "error: repetition quantifier expects a valid decimal"
  | countRangeInvalid => "error: invalid repetition count range, the start must be <= the end"
  | countUnclosed => "error: unclosed counted repetition"
  | hexEmpty => "error: hexadecimal literal empty"
  | hexInvalid => "error: hexadecimal literal is not a Unicode scalar value"
  | hexDigitInvalid => "error: invalid hexadecimal digit"
  | escapeUnexpectedEnd =>
      "error: incomplete escape sequence, reached end of pattern prematurely"
  | escapeUnrecognized => "error: unrecognized escape sequence"
  | flagDanglingNegation => "error: dangling flag negation operator"
  | flagDuplicate => "error: duplicate flag"
  | flagRepeatedNegation => "error: flag negation operator repeated"
  | flagUnexpectedEnd => "error: expected flag but got end of regex"
  | flagUnrecognized => "error: unrecognized flag"
  | groupNameDuplicate => "error: duplicate capture group name"
  | groupNameEmpty => "error: empty capture group name"
  | groupNameInvalid => "error: invalid capture group character"
  | groupNameUnexpectedEnd => "error: unclosed capture group name"
  | groupUnclosed => "error: unclosed group"
  | groupUnopened => "error: unopened group"
  | nestedTooDeeply limit =>
      "error: exceed the maximum number of nested parentheses/brackets (" ++ toString limit ++ ")"
  | repetitionMissing => "error: repetition operator missing expression"
  | wordBoundaryUnclosed =>
      "error: special word boundary assertion is either unclosed or contains an invalid character"
  | wordBoundaryUnrecognized =>
      "error: unrecognized special word boundary assertion, valid choices are: start, end, " ++
        "start-half or end-half"
  | wordBoundaryUnexpectedEnd =>
      "error: found either the beginning of a special word boundary or a bounded repetition on a " ++
        "\\b with an opening brace, but no closing brace"
  | propertyLetterInvalid => "error: invalid Unicode character class"
  | backreference => "error: backreferences are not supported"
  | lookAround => "error: look-around, including look-ahead and look-behind, is not supported"
  | unicodeNotAllowed => "error: Unicode not allowed here"
  | invalidUtf8 => "error: pattern can match invalid UTF-8"
  | propertyNotFound => "error: Unicode property not found"
  | propertyValueNotFound => "error: Unicode property value not found"
  | tooLarge limit => "Compiled regex exceeds size limit of " ++ toString limit ++ " bytes."

/-- Switches that a group can turn on or off. -/
inductive Flag
  | ignoreCase
  | multiLine
  | dotMatchesNewline
  | lazyByDefault
  | unicode
  | carriageReturn
  | verbose
deriving Repr, DecidableEq

/-- What stands between `(?` and the end of a list of flags. -/
inductive FlagItem
  | negation
  | flag (f : Flag)
deriving Repr, DecidableEq

/-- The last setting of `f` in a list of flags; all flags after a negation are turned off. -/
def flagState (f : Flag) (items : List FlagItem) : Option Bool :=
  if items.contains (.flag f) then
    some (!(items.takeWhile (· != .flag f)).contains .negation)
  else none

/-- A written character; `byte` marks one written as two hexadecimal digits after `x`. -/
structure Literal where
  char : Char
  byte : Bool
deriving Repr, DecidableEq

/-- The classes that have a letter. -/
inductive LetterClass
  | digit
  | space
  | word
deriving Repr, DecidableEq

/-- Classes of ASCII characters named inside brackets. -/
inductive AsciiClass
  | alnum | alpha | ascii | blank | cntrl | digit | graph | lower | print | punct | space | upper
  | word | xdigit
deriving Repr, DecidableEq

def AsciiClass.ofName? : String → Option AsciiClass
  | "alnum" => some alnum
  | "alpha" => some alpha
  | "ascii" => some ascii
  | "blank" => some blank
  | "cntrl" => some cntrl
  | "digit" => some digit
  | "graph" => some graph
  | "lower" => some lower
  | "print" => some print
  | "punct" => some punct
  | "space" => some space
  | "upper" => some upper
  | "word" => some word
  | "xdigit" => some xdigit
  | _ => none

/-- What a property escape names. -/
inductive PropertyName
  | single (name : List Char)
  | pair (negated : Bool) (property value : List Char)
deriving Repr, DecidableEq

/-- Operations between two sets in brackets. -/
inductive SetOp
  | intersection
  | difference
  | symmetricDifference
deriving Repr, DecidableEq

mutual

/-- One piece between brackets. -/
inductive ClassItem
  | literal (l : Literal)
  | range (first last : Literal)
  | ascii (negated : Bool) (cls : AsciiClass)
  | letter (negated : Bool) (cls : LetterClass)
  | property (negated : Bool) (name : PropertyName)
  | bracketed (negated : Bool) (set : ClassSet)
  | union (items : List ClassItem)

/-- What stands between a pair of brackets. -/
inductive ClassSet
  | item (i : ClassItem)
  | op (kind : SetOp) (left right : ClassSet)

end

/-- Conditions on a position. -/
inductive Assertion
  | lineStart
  | lineEnd
  | textStart
  | textEnd
  | wordBoundary
  | notWordBoundary
  | wordStart
  | wordEnd
  | wordStartHalf
  | wordEndHalf
deriving Repr, DecidableEq

/-- A written expression. -/
inductive Node
  | empty
  | flags (items : List FlagItem)
  | literal (l : Literal)
  | dot
  | assertion (a : Assertion)
  | letter (negated : Bool) (cls : LetterClass)
  | property (negated : Bool) (name : PropertyName)
  | bracketed (negated : Bool) (set : ClassSet)
  | repetition (least : Nat) (most : Option Nat) (isLazy : Bool) (n : Node)
  | group (captures : Bool) (items : List FlagItem) (n : Node)
  | concat (ns : List Node)
  | alternation (ns : List Node)

/-- A list of pieces as one: alone a piece stands for itself. -/
def ClassItem.ofList : List ClassItem → ClassItem
  | [i] => i
  | items => .union items

def Node.ofConcat : List Node → Node
  | [] => .empty
  | [n] => n
  | ns => .concat ns

def Node.ofAlternation : List Node → Node
  | [] => .empty
  | [n] => n
  | ns => .alternation ns

/-! ### Nesting -/

mutual

/-- How deep brackets and their operations are nested. -/
def ClassItem.depth : ClassItem → Nat
  | .literal _ => 0
  | .range _ _ => 0
  | .ascii _ _ => 0
  | .letter _ _ => 0
  | .property _ _ => 0
  | .bracketed _ set => set.depth + 1
  | .union [] => 0
  | .union (i :: items) => max i.depth (ClassItem.depthAll items) + 1

def ClassItem.depthAll : List ClassItem → Nat
  | [] => 0
  | i :: rest => max i.depth (ClassItem.depthAll rest)

def ClassSet.depth : ClassSet → Nat
  | .item i => i.depth
  | .op _ left right => max left.depth right.depth + 1

end

mutual

/-- How deep groups, repetitions, sequences, alternatives and brackets are nested. -/
def Node.depth : Node → Nat
  | .empty => 0
  | .flags _ => 0
  | .literal _ => 0
  | .dot => 0
  | .assertion _ => 0
  | .letter _ _ => 0
  | .property _ _ => 0
  | .bracketed _ set => set.depth + 1
  | .repetition _ _ _ n => n.depth + 1
  | .group _ _ n => n.depth + 1
  | .concat ns => Node.depthAll ns + 1
  | .alternation ns => Node.depthAll ns + 1

def Node.depthAll : List Node → Nat
  | [] => 0
  | n :: rest => max n.depth (Node.depthAll rest)

end

end RowAccess.Pattern.Regex
