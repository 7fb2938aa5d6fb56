import RowAccess.Pattern.Regex.Syntax
import RowAccess.Text.Blank
import RowAccess.Unicode.Class

/-!
# Reading regular expressions

`Node.read?` turns a text into an expression or says what is wrong with it first, from left to
right. In verbose mode blanks and comments between the pieces do not count; the functions that may
skip them take the mode as their first argument.

The two loops that follow nesting take fuel. Every turn reads at least one character, so as many
turns as the text has characters, and one more, are enough.
-/

namespace RowAccess.Pattern.Regex

open RowAccess.Number (isHexDigit ofHexDigits scalar?)
open RowAccess.Text (isBlank)

/-- What a step reads, with the text after it. -/
abbrev Reading (α : Type) := Except Fault (α × List Char)

/-! ### Blanks and comments -/

/-- Skips blanks and comments; the first argument says whether a comment has begun. -/
def skipFrom : Bool → List Char → List Char
  | _, [] => []
  | true, c :: rest => skipFrom (c != '\n') rest
  | false, c :: rest =>
      if isBlank c then skipFrom false rest
      else if c = '#' then skipFrom true rest
      else c :: rest

def skip (verbose : Bool) (s : List Char) : List Char :=
  if verbose then skipFrom false s else s

/-- The next character that is neither blank nor the first mark of a comment; when there is none,
the next character. -/
def peekFrom : Bool → List Char → Option Char
  | _, [] => none
  | commented, c :: rest =>
      if isBlank c then peekFrom commented rest
      else if c = '#' ∧ !commented then peekFrom true rest
      else some c

def peek (verbose : Bool) (s : List Char) : Option Char :=
  if verbose then (peekFrom false s).or s.head? else s.head?

/-! ### Escapes -/

def isMeta (c : Char) : Bool := "\\.+*?()|[]\x7b\x7d^$#&-~".toList.contains c

/-- ASCII characters that mean themselves after a backslash. -/
def isEscapable (c : Char) : Bool :=
  isMeta c || (c.toNat < 0x80 && !c.isAlphanum && c != '<' && c != '>')

def hexLiteral (digits : List Char) (byte : Bool) : Except Fault Literal :=
  match scalar? (ofHexDigits digits) with
  | some c => .ok ⟨c, byte⟩
  | none => .error .hexInvalid

/-- Hexadecimal digits up to a closing brace. -/
def bracedDigits (verbose : Bool) : Nat → List Char → Reading (List Char)
  | 0, _ => .error .escapeUnexpectedEnd
  | fuel + 1, s =>
      match skip verbose s with
      | [] => .error .escapeUnexpectedEnd
      | c :: rest =>
          if c = '\x7d' then .ok ([], skip verbose rest)
          else if isHexDigit c then
            match bracedDigits verbose fuel rest with
            | .ok (ds, rest) => .ok (c :: ds, rest)
            | .error e => .error e
          else .error .hexDigitInvalid

/-- A fixed number of hexadecimal digits. -/
def fixedDigits (verbose : Bool) : Nat → List Char → Reading (List Char)
  | 0, s => .ok ([], s)
  | n + 1, s =>
      match skip verbose s with
      | [] => .error .escapeUnexpectedEnd
      | c :: rest =>
          if isHexDigit c then
            match fixedDigits verbose n rest with
            | .ok (ds, rest) => .ok (c :: ds, rest)
            | .error e => .error e
          else .error .hexDigitInvalid

/-- The character written as hexadecimal digits; `count` is their number without braces. -/
def hexEscape (verbose : Bool) (count : Nat) (s : List Char) : Reading Literal :=
  match skip verbose s with
  | [] => .error .escapeUnexpectedEnd
  | '\x7b' :: rest =>
      match bracedDigits verbose (rest.length + 1) rest with
      | .error e => .error e
      | .ok (ds, rest) =>
          if ds.isEmpty then .error .hexEmpty
          else (hexLiteral ds false).map (·, rest)
  | s =>
      match fixedDigits verbose count s with
      | .error e => .error e
      | .ok (ds, rest) => (hexLiteral ds (count == 2)).map (·, skip verbose rest)

/-- Characters up to a closing brace. -/
def bracedName (verbose : Bool) : Nat → List Char → Reading (List Char)
  | 0, _ => .error .escapeUnexpectedEnd
  | fuel + 1, s =>
      match skip verbose s with
      | [] => .error .escapeUnexpectedEnd
      | c :: rest =>
          if c = '\x7d' then .ok ([], rest)
          else
            match bracedName verbose fuel rest with
            | .ok (cs, rest) => .ok (c :: cs, rest)
            | .error e => .error e

/-- Cuts a name at the first occurrence of a separator. -/
def cutAt (sep : List Char) : List Char → Option (List Char × List Char)
  | [] => none
  | c :: rest =>
      if sep.isPrefixOf (c :: rest) then some ([], (c :: rest).drop sep.length)
      else (cutAt sep rest).map fun p => (c :: p.1, p.2)

def PropertyName.ofBraced (name : List Char) : PropertyName :=
  match cutAt ['!', '='] name with
  | some (p, v) => .pair true p v
  | none =>
      match cutAt [':'] name with
      | some (p, v) => .pair false p v
      | none =>
          match cutAt ['='] name with
          | some (p, v) => .pair false p v
          | none => .single name

/-- The name of a property: in braces, or one character. -/
def propertyName (verbose : Bool) (s : List Char) : Reading PropertyName :=
  match skip verbose s with
  | [] => .error .escapeUnexpectedEnd
  | '\x7b' :: rest =>
      match bracedName verbose (rest.length + 1) rest with
      | .error e => .error e
      | .ok (name, rest) => .ok (.ofBraced name, rest)
  | c :: rest =>
      if c = '\\' then .error .propertyLetterInvalid else .ok (.single [c], skip verbose rest)

def isBoundaryChar (c : Char) : Bool := c.isAlpha || c == '-'

/-- Letters and hyphens of the name of a word boundary. -/
def boundaryName (verbose : Bool) : Nat → List Char → List Char × List Char
  | 0, s => ([], s)
  | fuel + 1, s =>
      match s with
      | c :: rest =>
          if isBoundaryChar c then
            let (cs, rest) := boundaryName verbose fuel (skip verbose rest)
            (c :: cs, rest)
          else ([], s)
      | [] => ([], s)

/-- After `\b`: a named boundary in braces. Braces that begin with something else are left for a
repetition. -/
def boundary (verbose : Bool) (s : List Char) : Reading Assertion :=
  match s with
  | '\x7b' :: rest =>
      match skip verbose rest with
      | [] => .error .wordBoundaryUnexpectedEnd
      | c :: inner =>
          if isBoundaryChar c then
            match boundaryName verbose (inner.length + 2) (c :: inner) with
            | (name, '\x7d' :: rest) =>
                if name = "start".toList then .ok (.wordStart, rest)
                else if name = "end".toList then .ok (.wordEnd, rest)
                else if name = "start-half".toList then .ok (.wordStartHalf, rest)
                else if name = "end-half".toList then .ok (.wordEndHalf, rest)
                else .error .wordBoundaryUnrecognized
            | _ => .error .wordBoundaryUnclosed
          else .ok (.wordBoundary, s)
  | _ => .ok (.wordBoundary, s)

/-- What follows a backslash. -/
def escape (verbose : Bool) : List Char → Reading Node
  | [] => .error .escapeUnexpectedEnd
  | c :: rest =>
      let plain (n : Char) : Reading Node := .ok (.literal ⟨n, false⟩, rest)
      if c.isDigit then .error .backreference
      else
        match c with
        | 'x' => (hexEscape verbose 2 rest).map fun r => (.literal r.1, r.2)
        | 'u' => (hexEscape verbose 4 rest).map fun r => (.literal r.1, r.2)
        | 'U' => (hexEscape verbose 8 rest).map fun r => (.literal r.1, r.2)
        | 'p' => (propertyName verbose rest).map fun r => (.property false r.1, r.2)
        | 'P' => (propertyName verbose rest).map fun r => (.property true r.1, r.2)
        | 'd' => .ok (.letter false .digit, rest)
        | 'D' => .ok (.letter true .digit, rest)
        | 's' => .ok (.letter false .space, rest)
        | 'S' => .ok (.letter true .space, rest)
        | 'w' => .ok (.letter false .word, rest)
        | 'W' => .ok (.letter true .word, rest)
        | 'a' => plain '\x07'
        | 'f' => plain '\x0c'
        | 't' => plain '\t'
        | 'n' => plain '\n'
        | 'r' => plain '\r'
        | 'v' => plain '\x0b'
        | 'A' => .ok (.assertion .textStart, rest)
        | 'z' => .ok (.assertion .textEnd, rest)
        | 'b' => (boundary verbose rest).map fun r => (.assertion r.1, r.2)
        | 'B' => .ok (.assertion .notWordBoundary, rest)
        | '<' => .ok (.assertion .wordStart, rest)
        | '>' => .ok (.assertion .wordEnd, rest)
        | _ => if isEscapable c then plain c else .error .escapeUnrecognized

/-! ### Bracketed classes -/

/-- One character or escape between brackets. -/
def classPrimitive (verbose : Bool) : List Char → Reading Node
  | [] => .error .classUnclosed
  | '\\' :: rest => escape verbose rest
  | c :: rest => .ok (.literal ⟨c, false⟩, rest)

def ClassItem.ofPrimitive : Node → Except Fault ClassItem
  | .literal l => .ok (.literal l)
  | .letter negated cls => .ok (.letter negated cls)
  | .property negated name => .ok (.property negated name)
  | _ => .error .classEscapeInvalid

def rangeEnd : Node → Except Fault Literal
  | .literal l => .ok l
  | _ => .error .classRangeLiteral

/-- A single item, or a range of two characters. -/
def classRange (verbose : Bool) (s : List Char) : Except Fault (ClassItem × List Char) := do
  let (first, rest) ← classPrimitive verbose s
  match skip verbose rest with
  | [] => .error .classUnclosed
  | '-' :: after =>
      if peek verbose after = some ']' ∨ peek verbose after = some '-' then
        return (← ClassItem.ofPrimitive first, '-' :: after)
      match skip verbose after with
      | [] => .error .classUnclosed
      | after =>
          let (second, rest) ← classPrimitive verbose after
          let lo ← rangeEnd first
          let hi ← rangeEnd second
          if lo.char ≤ hi.char then return (.range lo hi, rest) else .error .classRangeInvalid
  | rest => return (← ClassItem.ofPrimitive first, rest)

/-- `[:name:]` or `[:^name:]`, given the text after the opening bracket. -/
def asciiClass? (s : List Char) : Option (ClassItem × List Char) :=
  match s with
  | ':' :: rest =>
      let (negated, rest) :=
        match rest with
        | '^' :: rest => (true, rest)
        | _ => (false, rest)
      match rest.dropWhile (· != ':') with
      | ':' :: ']' :: after =>
          (AsciiClass.ofName? (String.ofList (rest.takeWhile (· != ':')))).map fun cls =>
            (.ascii negated cls, after)
      | _ => none
  | _ => none

/-- Hyphens at the start of a class mean themselves. -/
def leadingHyphens (verbose : Bool) : Nat → List Char → Reading (List ClassItem)
  | 0, _ => .error .classUnclosed
  | fuel + 1, s =>
      match s with
      | [] => .error .classUnclosed
      | '-' :: rest =>
          match leadingHyphens verbose fuel (skip verbose rest) with
          | .error e => .error e
          | .ok (items, rest) => .ok (.literal ⟨'-', false⟩ :: items, rest)
      | s => .ok ([], s)

/-- The start of a class after its opening bracket: the negation, then hyphens, or a closing bracket
that means itself. -/
def classOpen (verbose : Bool) (s : List Char) : Except Fault (Bool × List ClassItem × List Char) :=
  match skip verbose s with
  | [] => .error .classUnclosed
  | c :: rest =>
      let (negated, rest) := if c = '^' then (true, skip verbose rest) else (false, c :: rest)
      match leadingHyphens verbose (rest.length + 1) rest with
      | .error e => .error e
      | .ok ([], ']' :: after) =>
          match skip verbose after with
          | [] => .error .classUnclosed
          | after => .ok (negated, [.literal ⟨']', false⟩], after)
      | .ok (items, rest) => .ok (negated, items, rest)

/-- Closes the pieces read so far, in reverse, under the operation that awaits them. -/
def ClassSet.close (pending : Option (SetOp × ClassSet)) (items : List ClassItem) : ClassSet :=
  let right := ClassSet.item (.ofList items.reverse)
  match pending with
  | some (kind, left) => .op kind left right
  | none => right

/-- The rest of a class up to its closing bracket. -/
def classBody (verbose : Bool) : Nat → Option (SetOp × ClassSet) → List ClassItem → List Char →
    Reading ClassSet
  | 0, _, _, _ => .error .classUnclosed
  | fuel + 1, pending, items, s =>
      let next (kind : SetOp) (rest : List Char) :=
        classBody verbose fuel (some (kind, .close pending items)) [] rest
      match skip verbose s with
      | [] => .error .classUnclosed
      | ']' :: rest => .ok (.close pending items, rest)
      | '&' :: '&' :: rest => next .intersection rest
      | '-' :: '-' :: rest => next .difference rest
      | '~' :: '~' :: rest => next .symmetricDifference rest
      | '[' :: rest =>
          match asciiClass? rest with
          | some (item, rest) => classBody verbose fuel pending (item :: items) rest
          | none =>
              match classOpen verbose rest with
              | .error e => .error e
              | .ok (negated, inner, rest) =>
                  match classBody verbose fuel none inner.reverse rest with
                  | .error e => .error e
                  | .ok (set, rest) =>
                      classBody verbose fuel pending (.bracketed negated set :: items) rest
      | s =>
          match classRange verbose s with
          | .error e => .error e
          | .ok (item, rest) => classBody verbose fuel pending (item :: items) rest

/-- A class after its opening bracket. -/
def bracketed (verbose : Bool) (s : List Char) : Reading Node :=
  match classOpen verbose s with
  | .error e => .error e
  | .ok (negated, items, rest) =>
      match classBody verbose (rest.length + 1) none items.reverse rest with
      | .error e => .error e
      | .ok (set, rest) => .ok (.bracketed negated set, rest)

/-! ### Repetitions -/

/-- The operand of a repetition: the last piece read, unless it is a list of flags. -/
def operand? : List Node → Option (Node × List Node)
  | [] => none
  | .empty :: _ => none
  | .flags _ :: _ => none
  | n :: rest => some (n, rest)

/-- A question mark after a repetition asks for fewer turns first. -/
def lazyMark : List Char → Bool × List Char
  | '?' :: rest => (true, rest)
  | s => (false, s)

/-- Digits of a count, with what may be skipped after each. -/
def countDigits (verbose : Bool) : Nat → List Char → List Char × List Char
  | 0, s => ([], s)
  | fuel + 1, s =>
      match s with
      | c :: rest =>
          if c.isDigit then
            let (ds, rest) := countDigits verbose fuel (skip verbose rest)
            (c :: ds, rest)
          else ([], s)
      | [] => ([], s)

/-- A count, which has at least one digit and fits 32 bits, and the text after it. -/
def count (verbose : Bool) (s : List Char) : Except Fault Nat × List Char :=
  let s := s.dropWhile isBlank
  let (ds, rest) := countDigits verbose (s.length + 1) s
  let n := ds.foldl (fun n c => n * 10 + (c.toNat - 48)) 0
  let rest := skip verbose (rest.dropWhile isBlank)
  if ds.isEmpty then (.error .countMissing, rest)
  else if n ≤ 0xFFFFFFFF then (.ok n, rest)
  else (.error .countInvalid, rest)

/-- The bounds of a counted repetition after the opening brace. -/
def bounds (verbose : Bool) (s : List Char) : Reading (Nat × Option Nat) :=
  match skip verbose s with
  | [] => .error .countUnclosed
  | s =>
      let (least, rest) := count verbose s
      let close (b : Nat × Option Nat) (s : List Char) : Reading (Nat × Option Nat) :=
        match s with
        | '\x7d' :: rest => .ok (b, rest)
        | _ => .error .countUnclosed
      match rest with
      | [] => .error .countUnclosed
      | ',' :: rest =>
          match skip verbose rest with
          | [] => .error .countUnclosed
          | '\x7d' :: after =>
              match least with
              | .error e => .error e
              | .ok n => close (n, none) ('\x7d' :: after)
          | rest =>
              match least with
              | .error e => .error e
              | .ok n =>
                  match count verbose rest with
                  | (.error e, _) => .error e
                  | (.ok m, rest) => close (n, some m) rest
      | rest =>
          match least with
          | .error e => .error e
          | .ok n => close (n, some n) rest

/-- A counted repetition after the opening brace: its bounds and whether it is lazy. -/
def counted (verbose : Bool) (s : List Char) : Reading (Nat × Option Nat × Bool) :=
  match bounds verbose s with
  | .error e => .error e
  | .ok ((least, most), rest) =>
      let (isLazy, rest) := lazyMark (skip verbose rest)
      if most.all (least ≤ ·) then .ok ((least, most, isLazy), rest)
      else .error .countRangeInvalid

/-! ### Groups -/

def flag? : Char → Option Flag
  | 'i' => some .ignoreCase
  | 'm' => some .multiLine
  | 's' => some .dotMatchesNewline
  | 'U' => some .lazyByDefault
  | 'u' => some .unicode
  | 'R' => some .carriageReturn
  | 'x' => some .verbose
  | _ => none

/-- The flags up to `:` or `)`, in order, with the character that ends them. -/
def flagItems : List FlagItem → List Char → Except Fault (List FlagItem × Char × List Char)
  | _, [] => .error .flagUnexpectedEnd
  | items, c :: rest =>
      if c = ':' ∨ c = ')' then
        if items.head? = some .negation then .error .flagDanglingNegation
        else .ok (items.reverse, c, rest)
      else if c = '-' then
        if items.contains .negation then .error .flagRepeatedNegation
        else flagItems (.negation :: items) rest
      else
        match flag? c with
        | none => .error .flagUnrecognized
        | some f =>
            if items.contains (.flag f) then .error .flagDuplicate
            else flagItems (.flag f :: items) rest

/-- Characters of a group name; a name begins with a letter or an underscore. -/
def isNameChar (first : Bool) (c : Char) : Bool :=
  c == '_' || Unicode.Class.newestAlphabetic.has c ||
    (!first && (c == '.' || c == '[' || c == ']' || Unicode.Class.newestNumeric.has c))

def groupName : List Char → List Char → Reading (List Char)
  | _, [] => .error .groupNameUnexpectedEnd
  | name, c :: rest =>
      if c = '>' then .ok (name.reverse, rest)
      else if isNameChar name.isEmpty c then groupName (c :: name) rest
      else .error .groupNameInvalid

/-- What an opening parenthesis begins. -/
inductive Opening
  | flags (items : List FlagItem)
  | group (captures : Bool) (items : List FlagItem)
  | named (name : List Char)
deriving Repr

def named (s : List Char) : Reading Opening :=
  match groupName [] s with
  | .error e => .error e
  | .ok (name, rest) => if name.isEmpty then .error .groupNameEmpty else .ok (.named name, rest)

/-- The text after an opening parenthesis. -/
def opening (verbose : Bool) (s : List Char) : Reading Opening :=
  match skip verbose s with
  | '?' :: '=' :: _ => .error .lookAround
  | '?' :: '!' :: _ => .error .lookAround
  | '?' :: '<' :: '=' :: _ => .error .lookAround
  | '?' :: '<' :: '!' :: _ => .error .lookAround
  | '?' :: 'P' :: '<' :: rest => named rest
  | '?' :: '<' :: rest => named rest
  | '?' :: [] => .error .groupUnclosed
  | '?' :: rest =>
      match flagItems [] rest with
      | .error e => .error e
      | .ok (items, last, rest) =>
          if last = ')' then
            if items.isEmpty then .error .repetitionMissing else .ok (.flags items, rest)
          else .ok (.group false items, rest)
  | s => .ok (.group true [], s)

/-- What has been read of the inside of a group: finished alternatives and the pieces of the last
one, both in reverse, and the names of all groups so far. -/
structure Inside where
  alternatives : List Node
  items : List Node
  names : List (List Char)

def Inside.close (i : Inside) : Node :=
  match i.alternatives with
  | [] => .ofConcat i.items.reverse
  | as => .ofAlternation ((Node.ofConcat i.items.reverse :: as).reverse)

/-- The inside of a group, up to its closing parenthesis or the end of the text. -/
def inside : Nat → Bool → Inside → List Char →
    Except Fault (Node × List (List Char) × List Char)
  | 0, _, _, _ => .error .groupUnclosed
  | fuel + 1, verbose, i, s =>
      let push (n : Node) (rest : List Char) :=
        inside fuel verbose { i with items := n :: i.items } rest
      let again (least : Nat) (most : Option Nat) (after : Bool × List Char) :=
        match operand? i.items with
        | none => .error .repetitionMissing
        | some (n, items) =>
            inside fuel verbose { i with items := .repetition least most after.1 n :: items } after.2
      match skip verbose s with
      | [] => .ok (i.close, i.names, [])
      | ')' :: rest => .ok (i.close, i.names, ')' :: rest)
      | '|' :: rest =>
          inside fuel verbose
            { i with alternatives := .ofConcat i.items.reverse :: i.alternatives, items := [] } rest
      | '(' :: rest =>
          let enter (captures : Bool) (items : List FlagItem) (names : List (List Char))
              (rest : List Char) :=
            match inside fuel ((flagState .verbose items).getD verbose) ⟨[], [], names⟩ rest with
            | .error e => .error e
            | .ok (n, names, ')' :: rest) =>
                inside fuel verbose
                  { i with items := .group captures items n :: i.items, names := names } rest
            | .ok _ => .error .groupUnclosed
          match opening verbose rest with
          | .error e => .error e
          | .ok (.flags items, rest) =>
              inside fuel ((flagState .verbose items).getD verbose)
                { i with items := .flags items :: i.items } rest
          | .ok (.group captures items, rest) => enter captures items i.names rest
          | .ok (.named name, rest) =>
              if i.names.contains name then .error .groupNameDuplicate
              else enter true [] (name :: i.names) rest
      | '[' :: rest =>
          match bracketed verbose rest with
          | .error e => .error e
          | .ok (n, rest) => push n rest
      | '?' :: rest => again 0 (some 1) (lazyMark rest)
      | '*' :: rest => again 0 none (lazyMark rest)
      | '+' :: rest => again 1 none (lazyMark rest)
      | '\x7b' :: rest =>
          match operand? i.items with
          | none => .error .repetitionMissing
          | some _ =>
              match counted verbose rest with
              | .error e => .error e
              | .ok ((least, most, isLazy), rest) => again least most (isLazy, rest)
      | '\\' :: rest =>
          match escape verbose rest with
          | .error e => .error e
          | .ok (n, rest) => push n rest
      | '.' :: rest => push .dot rest
      | '^' :: rest => push (.assertion .lineStart) rest
      | '$' :: rest => push (.assertion .lineEnd) rest
      | c :: rest => push (.literal ⟨c, false⟩) rest

/-- Groups, repetitions and brackets may be nested this deep. -/
def nestingLimit : Nat := 250

/-- Reads an expression. -/
def Node.read? (s : List Char) : Except Fault Node :=
  match inside (s.length + 1) false ⟨[], [], []⟩ s with
  | .error e => .error e
  | .ok (_, _, _ :: _) => .error .groupUnopened
  | .ok (n, _, []) =>
      if n.depth ≤ nestingLimit then .ok n else .error (.nestedTooDeeply nestingLimit)

end RowAccess.Pattern.Regex
