-- What a scalar stands for: a truth value, a number, a day, null, or text.
-- A plain scalar tells it by its spelling alone; a tag in front of a node
-- says it outright.
import ThreeBlock.Text.Points
import ThreeBlock.Text.Segments
import ThreeBlock.Yaml.Stamp
namespace ThreeBlock.Yaml

/-! ## Kinds -/

/-- What a node stands for. -/
inductive Tag where
  | null
  | bool
  | int
  | float
  | stamp
  | binary
  | text
  | merge
  | default
  | list
  | pairs
  | set
  | map
  | other (name : String)
  deriving DecidableEq, Repr

def standardTag : String := "tag:yaml.org,2002:"

def tagNames : List (String × Tag) :=
  [("null", .null), ("bool", .bool), ("int", .int), ("float", .float), ("timestamp", .stamp),
    ("binary", .binary), ("str", .text), ("merge", .merge), ("value", .default), ("seq", .list),
    ("omap", .pairs), ("pairs", .pairs), ("set", .set), ("map", .map)]

def Tag.ofName (name : String) : Tag :=
  match tagNames.find? fun e => standardTag ++ e.1 = name with
  | some e => e.2
  | none => .other name

/-! ## Words -/

def trueWords : List String :=
  ["yes", "Yes", "YES", "true", "True", "TRUE", "on", "On", "ON"]

def falseWords : List String :=
  ["no", "No", "NO", "false", "False", "FALSE", "off", "Off", "OFF"]

def nullWords : List String := ["~", "null", "Null", "NULL", ""]

def infinityWords : List String := [".inf", ".Inf", ".INF"]

def nanWords : List String := [".nan", ".NaN", ".NAN"]

/-! ## Spellings of numbers -/

/-- A number without its sign, and whether the sign is a minus. -/
def splitSign : List Char → Bool × List Char
  | '-' :: cs => (true, cs)
  | '+' :: cs => (false, cs)
  | cs => (false, cs)

/-- Whether a character is a digit or the underscore that groups digits. -/
def isGrouped (c : Char) : Bool := Text.isDigit c || c = '_'

/-- Whether text is the lower part of a number in base 60: one or two digits,
the first of two at most 5. -/
def isSixtieth : List Char → Bool
  | [a] => Text.isDigit a
  | [a, b] => '0' ≤ a && a ≤ '5' && Text.isDigit b
  | _ => false

/-- Whether text is a number that starts with one of `first` and goes on with
grouped digits. -/
def isGroupedFrom (first : Char → Bool) : List Char → Bool
  | [] => false
  | c :: cs => first c && cs.all isGrouped

def isNonzeroDigit (c : Char) : Bool := '1' ≤ c && c ≤ '9'

def spellsNat : List Char → Bool
  | ['0'] => true
  | '0' :: 'b' :: cs => cs ≠ [] && cs.all fun c => c = '0' || c = '1' || c = '_'
  | '0' :: 'x' :: cs =>
    cs ≠ [] && cs.all fun c =>
      isGrouped c || ('a' ≤ c && c ≤ 'f') || ('A' ≤ c && c ≤ 'F')
  | '0' :: cs => cs.all fun c => ('0' ≤ c && c ≤ '7') || c = '_'
  | cs =>
    match Text.cut ':' cs with
    | [] => false
    | d :: ds => isGroupedFrom isNonzeroDigit d && ds.all isSixtieth

def isExponent : List Char → Bool
  | [] => true
  | e :: sign :: ds =>
    (e = 'e' || e = 'E') && (sign = '-' || sign = '+') && Text.isNumeral ds
  | _ => false

/-- Whether text is digits behind a point, with or without an exponent. -/
def isFraction (cs : List Char) : Bool :=
  isExponent (cs.dropWhile isGrouped)

/-- Whether text spells a number with a point, `unsigned` telling whether it
has no sign. -/
def spellsDecimal (unsigned : Bool) : List Char → Bool
  | '.' :: c :: cs => unsigned && Text.isDigit c && isFraction cs
  | cs =>
    let whole := cs.takeWhile fun c => c ≠ '.'
    match cs.drop whole.length, Text.cut ':' whole with
    | '.' :: r, [d] => isGroupedFrom Text.isDigit d && isFraction r
    | '.' :: r, d :: ds => isGroupedFrom Text.isDigit d && ds.all isSixtieth && r.all isGrouped
    | _, _ => false

def spellsFloat (cs : List Char) : Bool :=
  let body := (splitSign cs).2
  spellsDecimal (body.length = cs.length) body || infinityWords.contains (String.ofList body) ||
    nanWords.contains (String.ofList cs)

/-! ## Plain scalars -/

def Tag.ofWord (text : String) : Tag :=
  if trueWords.contains text || falseWords.contains text then .bool
  else if spellsFloat text.toList then .float
  else if spellsNat (splitSign text.toList).2 then .int
  else if text = "<<" then .merge
  else if nullWords.contains text then .null
  else if spellsStamp text.toList then .stamp
  else if text = "=" then .default
  else .text

/-- The tag of a plain scalar. A code point without a character is part of
no word. -/
def Tag.ofPlain (text : Text.Points) : Tag := Tag.ofWord (String.ofList (Text.charsOf text))

/-- A text without the line feed at its end, unless it is nothing else. -/
def withoutFinalBreak (text : Text.Points) : Text.Points :=
  if 1 < text.length && text.getLast? = some '\n'.toNat then text.dropLast else text

/-- The tag of a scalar that is to be taken as a plain one, however it is
written. A line feed at its end does not count. -/
def Tag.asPlain (text : Text.Points) : Tag := Tag.ofPlain (withoutFinalBreak text)

end ThreeBlock.Yaml
