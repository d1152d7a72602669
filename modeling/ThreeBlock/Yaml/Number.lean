-- Numbers as YAML writes them. Underscores group digits and count for
-- nothing. Whole numbers may be written in base 2, 8, 10, 16 or 60, all
-- others in base 10 or 60. Behind a tag the digits of any script will do.
-- What spells no number is shown in the message about it, part by part.
import ThreeBlock.Abort
import ThreeBlock.Decimal.Nearest
import ThreeBlock.Text.DigitTable
import ThreeBlock.Text.Points
import ThreeBlock.Yaml.Digits
import ThreeBlock.Yaml.Tag
namespace ThreeBlock.Yaml

/-! ## Marks -/

def ungrouped (ps : Text.Points) : Text.Points := ps.filter (· ≠ '_'.toNat)

def cutSign : Text.Points → Bool × Text.Points
  | [] => (false, [])
  | p :: ps =>
    if p = '-'.toNat then (true, ps) else if p = '+'.toNat then (false, ps) else (false, p :: ps)

def signed {α : Type} [Neg α] (negative : Bool) (x : α) : α := if negative then -x else x

def isPadding (c : Char) : Bool := Text.isBlank c && !(0x1C ≤ c.toNat && c.toNat ≤ 0x1F)

/-- Text without what may stand around a number. -/
def withoutPadding (cs : List Char) : List Char :=
  ((cs.dropWhile isPadding).reverse.dropWhile isPadding).reverse

/-- The characters of a number, with the digits of all scripts made one. -/
def numberChars (ps : Text.Points) : List Char :=
  withoutPadding ((Text.charsOf ps).map Text.plainDigit)

/-! ## Whole numbers -/

def withoutBaseMark (base : Nat) : List Char → List Char
  | '0' :: c :: cs =>
    if (base = 2 && (c = 'b' || c = 'B')) || (base = 8 && (c = 'o' || c = 'O')) ||
      (base = 16 && (c = 'x' || c = 'X')) then cs
    else '0' :: c :: cs
  | cs => cs

/-- The whole number that a text spells in a base. A decimal numeral may be
too long even when it is none to its end. -/
def readInteger (base : Nat) (ps : Text.Points) : Except Abort Int :=
  let (negative, body) := splitSign (numberChars ps)
  let digits := withoutBaseMark base body
  let run := digits.takeWhile (isDigitIn base)
  if base = 10 && Text.numeralLimit < run.length then .error (.numeralTooLong run.length)
  else if run = [] || run.length < digits.length then
    .error (.noInteger base (Text.quotedPoints ps))
  else .ok (signed negative (digitsValue base run))

def readSixty (parts : List Text.Points) : Except Abort Int :=
  (parts.mapM (readInteger 10)).map fun ds => ds.foldl (fun n d => 60 * n + d) 0

/-- The whole number that text without underscores spells, its sign aside. -/
def readUnsigned (ps : Text.Points) : Except Abort Int :=
  match Text.charsOf (ps.take 2) with
  | [] => .error .nothingToRead
  | ['0'] => .ok 0
  | ['0', 'b'] => readInteger 2 (ps.drop 2)
  | ['0', 'x'] => readInteger 16 (ps.drop 2)
  | '0' :: _ => readInteger 8 ps
  | _ =>
    if ps.contains ':'.toNat then readSixty (Text.cut ':'.toNat ps) else readInteger 10 ps

def wholeNumber (text : Text.Points) : Except Abort Int :=
  let (negative, body) := cutSign (ungrouped text)
  (readUnsigned body).map (signed negative)

/-! ## Other numbers -/

/-- Whether text is a decimal, its sign aside: digits around an optional
point, and an optional exponent. -/
def isDecimal (cs : List Char) : Bool :=
  let whole := cs.takeWhile Text.isDigit
  let behind := cs.drop whole.length
  let places := if behind.head? = some '.' then behind.tail.takeWhile Text.isDigit else []
  let rest := if behind.head? = some '.' then behind.tail.drop places.length else behind
  let exponent :=
    match rest with
    | [] => true
    | e :: cs => (e = 'e' || e = 'E') && Text.isNumeral (splitSign cs).2
  (whole ≠ [] || places ≠ []) && exponent

def readNumber (ps : Text.Points) : Except Abort Float :=
  let (negative, body) := splitSign (numberChars ps)
  let word := Text.lowercase (String.ofList body)
  if word = "inf" || word = "infinity" then .ok (signed negative (1 / 0))
  else if word = "nan" then .ok (0 / 0)
  else if isDecimal body then .ok (signed negative (Decimal.numeralNumber body))
  else .error (.noNumber (Text.quotedPoints ps))

/-- A number in base 60 from its parts, the last of them first and worth
`60 ^ place`. -/
def sixtySum : Nat → Float → List Float → Except Abort Float
  | _, sum, [] => .ok sum
  | place, sum, d :: ds =>
    match Decimal.nearestWhole? (Nat.pow 60 place) with
    | none => .error .numberTooGreat
    | some worth => sixtySum (place + 1) (sum + d * worth) ds

def isWord (word : String) (ps : Text.Points) : Bool := ps = Text.pointsOf word.toList

def number (text : Text.Points) : Except Abort Float :=
  match Text.lowerPoints (ungrouped text) with
  | [] => .error .nothingToRead
  | ps =>
    let (negative, body) := cutSign ps
    if isWord ".inf" body then .ok (signed negative (1 / 0))
    else if isWord ".nan" body then .ok (0 / 0)
    else if body.contains ':'.toNat then do
      let parts ← (Text.cut ':'.toNat body).mapM readNumber
      (sixtySum 0 0 parts.reverse).map (signed negative)
    else (readNumber body).map (signed negative)

/-- Whether a scalar spells what is no number as a word of its own. -/
def isNanWord (text : Text.Points) : Bool :=
  isWord ".nan" (cutSign (Text.lowerPoints (ungrouped text))).2

end ThreeBlock.Yaml
