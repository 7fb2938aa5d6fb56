import RowAccess.Unicode.Addition
import RowAccess.Unicode.Age
import RowAccess.Unicode.Break
import RowAccess.Unicode.CaseFold
import RowAccess.Unicode.Category
import RowAccess.Unicode.Property
import RowAccess.Unicode.Script

/-!
# Character classes by name

`Class.named?` finds the set that a single name stands for: first among the binary properties, then
among the general categories, last among the scripts. `Class.valued?` finds the set of one value of
a property. The classes that texts and patterns use without a name stand at the end.
-/

namespace RowAccess.Unicode

namespace Category

/-- The assigned category under a loose name. -/
def listed (name : String) : CodeSet :=
  (NamedTable.find? categoryTables name).getD CodeSet.empty

def all (names : List String) : CodeSet :=
  CodeSet.ofRanges (names.flatMap fun n => (listed n).ranges)

def assigned : CodeSet :=
  CodeSet.ofRanges (categoryTables.flatMap fun t => (CodeSet.ofText t.text).ranges)

def unassigned : CodeSet := assigned.complement

/-- Groups of categories under their names. -/
def groups : List (List String × List String) :=
  [(["l", "letter"], ["lu", "ll", "lt", "lm", "lo"]),
   (["lc", "casedletter"], ["lu", "ll", "lt"]),
   (["m", "mark", "combiningmark"], ["mn", "mc", "me"]),
   (["n", "number"], ["nd", "nl", "no"]),
   (["p", "punctuation", "punct"], ["pc", "pd", "ps", "pe", "pi", "pf", "po"]),
   (["s", "symbol"], ["sm", "sc", "sk", "so"]),
   (["z", "separator"], ["zs", "zl", "zp"])]

end Category

/-- Why a name stands for no class. -/
inductive ClassFault
  | unknownProperty
  | unknownValue
deriving Repr, DecidableEq

/-- The general category under a loose name; `none` when there is no such category. Surrogates are a
category without characters, so they are no value that a class can have. -/
def generalCategory? (name : String) : Option (Except ClassFault CodeSet) :=
  if name = "any" then some (.ok (.interval 0 CodeSet.last))
  else if name = "ascii" then some (.ok (.interval 0 0x7F))
  else if name = "assigned" then some (.ok Category.assigned)
  else if name = "cn" ∨ name = "unassigned" then some (.ok Category.unassigned)
  else if name = "c" ∨ name = "other" then
    some (.ok ((Category.all ["cc", "cf", "cs", "co"]).union Category.unassigned))
  else if name = "cs" ∨ name = "surrogate" then some (.error .unknownValue)
  else
    match Category.groups.find? fun g => g.1.contains name with
    | some g => some (.ok (Category.all g.2))
    | none => (NamedTable.find? categoryTables name).map .ok

/-- The script under a loose name. Two names of the standard have no characters of their own. -/
def script? (name : String) : Option (Except ClassFault CodeSet) :=
  if ["zzzz", "unknown", "hrkt", "katakanaorhiragana"].contains name then some (.error .unknownValue)
  else (NamedTable.find? scriptTables name).map .ok

/-- The script with the characters it shares with others. -/
def scriptExtension? (name : String) : Option (Except ClassFault CodeSet) :=
  match NamedTable.find? scriptExtensionTables name with
  | some s => some (.ok s)
  | none => script? name

namespace Derived

def lowercase : CodeSet := (Category.listed "ll").union (.ofText lowercaseExtra)

def uppercase : CodeSet := (Category.listed "lu").union (.ofText uppercaseExtra)

def cased : CodeSet := (lowercase.union uppercase).union (Category.listed "lt")

def alphabetic : CodeSet :=
  (Category.all ["lu", "ll", "lt", "lm", "lo", "nl"]).union (.ofText alphabeticExtra)

def caseIgnorable : CodeSet :=
  (Category.all ["mn", "me", "cf", "lm", "sk"]).union (.ofText caseIgnorableExtra)

def math : CodeSet := (Category.listed "sm").union (.ofText mathExtra)

def graphemeExtend : CodeSet := (Category.all ["mn", "me"]).union (.ofText graphemeExtendExtra)

def graphemeBase : CodeSet :=
  ((Category.assigned.diff (Category.all ["cc", "cf", "cs", "co", "zl", "zp"]))).diff graphemeExtend

def identifierStart : CodeSet :=
  ((Category.all ["lu", "ll", "lt", "lm", "lo", "nl"]).union (.ofText identifierStartExtra)).diff
    (.ofText identifierStartExcluded)

def identifierContinue : CodeSet :=
  (identifierStart.union (Category.all ["mn", "mc", "nd", "pc"])).union
    (.ofText identifierContinueExtra)

/-- Properties derived from the categories, under their names. -/
def tables : List (List String × (Unit → CodeSet)) :=
  [(["alpha", "alphabetic"], fun _ => alphabetic),
   (["lower", "lowercase"], fun _ => lowercase),
   (["upper", "uppercase"], fun _ => uppercase),
   (["cased"], fun _ => cased),
   (["ci", "caseignorable"], fun _ => caseIgnorable),
   (["math"], fun _ => math),
   (["grext", "graphemeextend"], fun _ => graphemeExtend),
   (["grbase", "graphemebase"], fun _ => graphemeBase),
   (["ids", "idstart"], fun _ => identifierStart),
   (["idc", "idcontinue"], fun _ => identifierContinue),
   (["xids", "xidstart"], fun _ => identifierStart.diff (.ofText closedStartExcluded)),
   (["xidc", "xidcontinue"], fun _ => identifierContinue.diff (.ofText closedContinueExcluded)),
   (["cwcm", "changeswhencasemapped"], fun _ =>
     (["cwl", "cwu", "cwt"].map fun n =>
       (NamedTable.find? propertyTables n).getD CodeSet.empty).foldl CodeSet.union CodeSet.empty),
   (["oalpha", "otheralphabetic"], fun _ => .ofText alphabeticExtra),
   (["olower", "otherlowercase"], fun _ => .ofText lowercaseExtra),
   (["oupper", "otheruppercase"], fun _ => .ofText uppercaseExtra),
   (["omath", "othermath"], fun _ => .ofText mathExtra),
   (["ogrext", "othergraphemeextend"], fun _ => .ofText graphemeExtendExtra),
   (["oids", "otheridstart"], fun _ => .ofText identifierStartExtra),
   (["oidc", "otheridcontinue"], fun _ => .ofText identifierContinueExtra)]

end Derived

/-- The binary property under a loose name. -/
def binaryProperty? (name : String) : Option CodeSet :=
  match Derived.tables.find? fun t => t.1.contains name with
  | some t => some (t.2 ())
  | none => NamedTable.find? propertyTables name

/-- Names of properties whose values are no classes here. -/
def otherPropertyNames : List String :=
  ["bc", "bidiclass", "bmg", "bidimirroringglyph", "bpb", "bidipairedbracket", "bpt",
   "bidipairedbrackettype", "blk", "block", "ccc", "canonicalcombiningclass", "cf", "casefolding",
   "cwkcf", "changeswhennfkccasefolded", "ce", "compositionexclusion", "dm",
   "decompositionmapping", "dt", "decompositiontype", "ea", "eastasianwidth", "equideo",
   "equivalentunifiedideograph", "xonfc", "expandsonnfc", "xonfd", "expandsonnfd", "xonfkc",
   "expandsonnfkc", "xonfkd", "expandsonnfkd", "fcnfkc", "fcnfkcclosure", "compex",
   "fullcompositionexclusion", "hst", "hangulsyllabletype", "isc", "ocomment", "incb",
   "indicconjunctbreak", "inpc", "indicpositionalcategory", "insc", "indicsyllabiccategory", "jsn",
   "jamoshortname", "jg", "joininggroup", "jt", "joiningtype", "lb", "linebreak", "lc",
   "lowercasemapping", "nfcqc", "nfcquickcheck", "nfdqc", "nfdquickcheck", "nfkccf",
   "nfkccasefold", "nfkcqc", "nfkcquickcheck", "nfkcscf", "nfkcsimplecasefold", "nfkdqc",
   "nfkdquickcheck", "na", "name", "namealias", "nt", "numerictype", "nv", "numericvalue", "scf",
   "sfc", "simplecasefolding", "slc", "simplelowercasemapping", "stc", "simpletitlecasemapping",
   "suc", "simpleuppercasemapping", "tc", "titlecasemapping", "na1", "unicode1name", "uc",
   "uppercasemapping", "vo", "verticalorientation", "kaccountingnumeric", "cjkaccountingnumeric",
   "kcompatibilityvariant", "cjkcompatibilityvariant", "kehcat", "kehdesc", "kehhg", "kehifao",
   "kehjsesh", "kehnomirror", "kehnorotate", "kiicore", "cjkiicore", "kirggsource",
   "cjkirggsource", "kirghsource", "cjkirghsource", "kirgjsource", "cjkirgjsource", "kirgkpsource",
   "cjkirgkpsource", "kirgksource", "cjkirgksource", "kirgmsource", "cjkirgmsource", "kirgssource",
   "cjkirgssource", "kirgtsource", "cjkirgtsource", "kirguksource", "cjkirguksource",
   "kirgusource", "cjkirgusource", "kirgvsource", "cjkirgvsource", "kothernumeric",
   "cjkothernumeric", "kprimarynumeric", "cjkprimarynumeric", "urs", "krsunicode", "cjkrsunicode",
   "unicoderadicalstroke"]

namespace Class

/-- The class that a name stands for on its own. -/
def named? (name : List Char) : Except ClassFault CodeSet :=
  let n := looseName name
  let property := if n = "cf" ∨ n = "sc" ∨ n = "lc" then none else binaryProperty? n
  match property with
  | some s => .ok s
  | none =>
      match generalCategory? n with
      | some r => r
      | none => (script? n).getD (.error .unknownProperty)

/-- The ages up to and including `version`. -/
def upToAge? (version : String) : Option CodeSet :=
  if ageTables.any fun t => t.names.contains version then
    let older := ageTables.takeWhile fun t => !t.names.contains version
    let this := ageTables.filter fun t => t.names.contains version
    some (.ofRanges ((older ++ this).flatMap fun t => (CodeSet.ofText t.text).ranges))
  else none

/-- The value of the grapheme break property; closed syllables are the others of the block. -/
def graphemeBreak? (value : String) : Option CodeSet :=
  if value = "lvt" then
    (NamedTable.find? graphemeBreakTables "lv").map fun open_ =>
      (CodeSet.interval 0xAC00 0xD7A3).diff open_
  else NamedTable.find? graphemeBreakTables value

/-- The class of the characters whose property has the value. -/
def valued? (property value : List Char) : Except ClassFault CodeSet :=
  let p := looseName property
  let v := looseName value
  let orUnknown (s : Option CodeSet) : Except ClassFault CodeSet :=
    match s with
    | some s => .ok s
    | none => .error .unknownValue
  if ["gc", "generalcategory"].contains p then
    (generalCategory? v).getD (.error .unknownValue)
  else if ["sc", "script"].contains p then (script? v).getD (.error .unknownValue)
  else if ["scx", "scriptextensions"].contains p then
    (scriptExtension? v).getD (.error .unknownValue)
  else if p = "age" then orUnknown (upToAge? v)
  else if ["gcb", "graphemeclusterbreak"].contains p then orUnknown (graphemeBreak? v)
  else if ["wb", "wordbreak"].contains p then orUnknown (NamedTable.find? wordBreakTables v)
  else if ["sb", "sentencebreak"].contains p then orUnknown (NamedTable.find? sentenceBreakTables v)
  else if otherPropertyNames.contains p ∨ (binaryProperty? p).isSome then .error .unknownValue
  else .error .unknownProperty

/-! ### Classes without a name -/

def digit : CodeSet := Category.listed "nd"

/-- Letters, marks, digits, connectors and joiners. -/
def word : CodeSet :=
  CodeSet.ofRanges (Derived.alphabetic.ranges ++
    (Category.all ["mn", "mc", "me", "nd", "pc"]).ranges ++ [(0x200C, 0x200D)])

/-- Characters that name something, in the newest version of the standard. -/
def newestAlphabetic : CodeSet := Derived.alphabetic.union Addition.alphabetic

def newestNumeric : CodeSet := (Category.all ["nd", "nl", "no"]).union Addition.numeric

/-- Letters that show nothing. -/
def fillers : CodeSet := .ofText "115F-1160 3164 FFA0"

/-- Marks that extend a grapheme and yet stand in a cell of their own. -/
def spacingMarks : CodeSet := .ofText "FF9E-FF9F"

/-- Characters that cannot be seen alone, in the newest version of the standard: controls, formats,
private and unassigned ones, separators but the space, and those that join the one before them. -/
def hidden : CodeSet :=
  let unseen := (Category.all ["cc", "cf", "cs", "co", "zl", "zp", "zs"]).union
    (Category.unassigned.diff Addition.assigned)
  let joining := (Derived.graphemeExtend.union Addition.graphemeExtend).diff spacingMarks
  ((unseen.diff (.single 0x20)).union fillers).union joining

end Class

end RowAccess.Unicode
