import RowAccess.Pattern.Regex.Expr
import RowAccess.Pattern.Regex.Syntax
import RowAccess.Unicode.Class

/-!
# What a regular expression matches

`Node.meaning` finds the `Expr` that a written expression stands for, or the reason why it stands for
none: an unknown property, or a byte that would match part of a character.

Flags hold from where they are set to the end of the group they stand in, across alternatives.
-/

namespace RowAccess.Pattern.Regex

open RowAccess.Unicode (CodeSet)

/-- The switches in force. -/
structure Mode where
  ignoreCase : Bool
  multiLine : Bool
  dotMatchesNewline : Bool
  lazyByDefault : Bool
  unicode : Bool
  carriageReturn : Bool
deriving Repr, DecidableEq

/-- The switches at the start of an expression. -/
def Mode.initial : Mode := ⟨false, false, false, false, true, false⟩

/-- The switches after a list of flags; a flag it does not name keeps its state. -/
def Mode.set (m : Mode) (items : List FlagItem) : Mode where
  ignoreCase := (flagState .ignoreCase items).getD m.ignoreCase
  multiLine := (flagState .multiLine items).getD m.multiLine
  dotMatchesNewline := (flagState .dotMatchesNewline items).getD m.dotMatchesNewline
  lazyByDefault := (flagState .lazyByDefault items).getD m.lazyByDefault
  unicode := (flagState .unicode items).getD m.unicode
  carriageReturn := (flagState .carriageReturn items).getD m.carriageReturn

/-! ### Classes -/

def AsciiClass.set : AsciiClass → CodeSet
  | alnum => .ofRanges [(0x30, 0x39), (0x41, 0x5A), (0x61, 0x7A)]
  | alpha => .ofRanges [(0x41, 0x5A), (0x61, 0x7A)]
  | ascii => .ofRanges [(0, 0x7F)]
  | blank => .ofRanges [(9, 9), (0x20, 0x20)]
  | cntrl => .ofRanges [(0, 0x1F), (0x7F, 0x7F)]
  | digit => .ofRanges [(0x30, 0x39)]
  | graph => .ofRanges [(0x21, 0x7E)]
  | lower => .ofRanges [(0x61, 0x7A)]
  | print => .ofRanges [(0x20, 0x7E)]
  | punct => .ofRanges [(0x21, 0x2F), (0x3A, 0x40), (0x5B, 0x60), (0x7B, 0x7E)]
  | space => .ofRanges [(9, 13), (0x20, 0x20)]
  | upper => .ofRanges [(0x41, 0x5A)]
  | word => .ofRanges [(0x30, 0x39), (0x41, 0x5A), (0x5F, 0x5F), (0x61, 0x7A)]
  | xdigit => .ofRanges [(0x30, 0x39), (0x41, 0x46), (0x61, 0x66)]

/-- The White_Space property. -/
def blankSet : CodeSet :=
  .ofRanges [(9, 13), (0x20, 0x20), (0x85, 0x85), (0xA0, 0xA0), (0x1680, 0x1680), (0x2000, 0x200A),
    (0x2028, 0x2029), (0x202F, 0x202F), (0x205F, 0x205F), (0x3000, 0x3000)]

def LetterClass.set (unicode : Bool) : LetterClass → CodeSet
  | .digit => if unicode then Unicode.Class.digit else AsciiClass.digit.set
  | .space => if unicode then blankSet else AsciiClass.space.set
  | .word => if unicode then Unicode.Class.word else AsciiClass.word.set

/-- Characters equal to a member up to case; without Unicode only ASCII letters have case. -/
def foldFor (m : Mode) (s : CodeSet) : CodeSet :=
  if !m.ignoreCase then s
  else if m.unicode then s.foldCase
  else
    let upper := s.inter AsciiClass.upper.set
    let lower := s.inter AsciiClass.lower.set
    .ofRanges (s.ranges ++ upper.ranges.map (fun r => (r.1 + 32, r.2 + 32)) ++
      lower.ranges.map (fun r => (r.1 - 32, r.2 - 32)))

/-- Case first, then the negation. -/
def foldThenNegate (m : Mode) (negated : Bool) (s : CodeSet) : CodeSet :=
  let s := foldFor m s
  if negated then s.complement else s

/-- Without Unicode a class may not go beyond ASCII, where bytes are no characters. -/
def asciiUnlessUnicode (m : Mode) (s : CodeSet) : Except Fault CodeSet :=
  if m.unicode || s.isAscii then .ok s else .error .invalidUtf8

/-- The code of a character in a class. Without Unicode it is an ASCII character. -/
def Literal.classCode (m : Mode) (l : Literal) : Except Fault Nat :=
  if m.unicode || l.char.toNat < 0x80 then .ok l.char.toNat
  else if l.byte then .error .invalidUtf8
  else .error .unicodeNotAllowed

def PropertyName.set? : PropertyName → Except Fault CodeSet
  | .single name => (Unicode.Class.named? name).mapError faultOf
  | .pair _ property value => (Unicode.Class.valued? property value).mapError faultOf
where
  faultOf : Unicode.ClassFault → Fault
    | .unknownProperty => .propertyNotFound
    | .unknownValue => .propertyValueNotFound

/-- A sign that differs between the property and its value. -/
def PropertyName.negated : PropertyName → Bool
  | .single _ => false
  | .pair negated _ _ => negated

def letterSet (m : Mode) (negated : Bool) (cls : LetterClass) : Except Fault CodeSet :=
  let s := cls.set m.unicode
  asciiUnlessUnicode m (if negated then s.complement else s)

def propertySet (m : Mode) (negated : Bool) (name : PropertyName) : Except Fault CodeSet :=
  if !m.unicode then .error .unicodeNotAllowed
  else
    match name.set? with
    | .error e => .error e
    | .ok s => .ok (foldThenNegate m (negated != name.negated) s)

def SetOp.apply (m : Mode) (op : SetOp) (a b : CodeSet) : CodeSet :=
  let a := foldFor m a
  let b := foldFor m b
  match op with
  | .intersection => a.inter b
  | .difference => a.diff b
  | .symmetricDifference => a.symmDiff b

mutual

/-- The set that a piece between brackets adds. -/
def ClassItem.set (m : Mode) : ClassItem → Except Fault CodeSet
  | .literal l => (l.classCode m).map CodeSet.single
  | .range first last => do
      let lo ← first.classCode m
      let hi ← last.classCode m
      return .interval lo hi
  | .ascii negated cls => asciiUnlessUnicode m (foldThenNegate m negated cls.set)
  | .letter negated cls => letterSet m negated cls
  | .property negated name => propertySet m negated name
  | .bracketed negated set => do
      let s ← set.set m
      asciiUnlessUnicode m (foldThenNegate m negated s)
  | .union items => ClassItem.setAll m items

def ClassItem.setAll (m : Mode) : List ClassItem → Except Fault CodeSet
  | [] => .ok .empty
  | i :: rest => do
      let a ← i.set m
      let b ← ClassItem.setAll m rest
      return a.union b

/-- The set between brackets. -/
def ClassSet.set (m : Mode) : ClassSet → Except Fault CodeSet
  | .item i => i.set m
  | .op kind left right => do
      let a ← left.set m
      let b ← right.set m
      return kind.apply m a b

end

/-! ### Expressions -/

def Literal.expr (m : Mode) (l : Literal) : Except Fault Expr :=
  if !m.unicode && l.byte && 0x7F < l.char.toNat then .error .invalidUtf8
  else if m.unicode || l.char.toNat < 0x80 then
    .ok (.ofSet (!m.unicode) (foldFor m (.single l.char.toNat)))
  else .ok (.literal [l.char])

/-- All characters, or all but the ends of lines. -/
def dotExpr (m : Mode) : Except Fault Expr :=
  if !m.unicode then .error .invalidUtf8
  else if m.dotMatchesNewline then .ok (.ofSet false (.interval 0 CodeSet.last))
  else if m.carriageReturn then
    .ok (.ofSet false (CodeSet.ofRanges [(10, 10), (13, 13)]).complement)
  else .ok (.ofSet false (CodeSet.single 10).complement)

def Assertion.look (m : Mode) : Assertion → Look
  | .lineStart =>
      if !m.multiLine then .textStart else if m.carriageReturn then .lineStartReturn else .lineStart
  | .lineEnd =>
      if !m.multiLine then .textEnd else if m.carriageReturn then .lineEndReturn else .lineEnd
  | .textStart => .textStart
  | .textEnd => .textEnd
  | .wordBoundary => .boundary m.unicode
  | .notWordBoundary => .notBoundary m.unicode
  | .wordStart => .wordStart m.unicode
  | .wordEnd => .wordEnd m.unicode
  | .wordStartHalf => .wordStartHalf m.unicode
  | .wordEndHalf => .wordEndHalf m.unicode

mutual

/-- The meaning of an expression, with the switches in force after it. -/
def Node.meaning (m : Mode) : Node → Except Fault (Expr × Mode)
  | .empty => .ok (.empty, m)
  | .flags items => .ok (.empty, m.set items)
  | .literal l => (l.expr m).map (·, m)
  | .dot => (dotExpr m).map (·, m)
  | .assertion a => .ok (.look (a.look m), m)
  | .letter negated cls => (letterSet m negated cls).map fun s => (.ofSet (!m.unicode) s, m)
  | .property negated name => (propertySet m negated name).map fun s => (.ofSet false s, m)
  | .bracketed negated set => do
      let s ← set.set m
      let s ← asciiUnlessUnicode m (foldThenNegate m negated s)
      return (.ofSet (!m.unicode) s, m)
  | .repetition least most isLazy n => do
      let (e, m) ← n.meaning m
      return (.ofRepeat least most (isLazy != m.lazyByDefault) e, m)
  | .group captures items n => do
      let (e, _) ← n.meaning (m.set items)
      return (if captures then .group e else e, m)
  | .concat ns => do
      let (es, m) ← Node.meaningAll m ns
      return (.ofConcat es, m)
  | .alternation ns => do
      let (es, m) ← Node.meaningAll m ns
      return (.ofAlternation es, m)

def Node.meaningAll (m : Mode) : List Node → Except Fault (List Expr × Mode)
  | [] => .ok ([], m)
  | n :: rest => do
      let (e, m) ← n.meaning m
      let (es, m) ← Node.meaningAll m rest
      return (e :: es, m)

end

end RowAccess.Pattern.Regex
