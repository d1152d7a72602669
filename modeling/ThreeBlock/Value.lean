-- Values whose shape is known only when the program runs: what a settings
-- file holds, and what the fields of a log event hold.
import ThreeBlock.Abort
import ThreeBlock.Decimal.Shortest
import ThreeBlock.Text.Points
namespace ThreeBlock

/-- A plain value. A set and a map keep their items in order. -/
inductive Value where
  | null
  | bool (b : Bool)
  | int (n : Int)
  | float (x : Float)
  | text (s : String)
  | rough (ps : Text.Points)
  | bytes (bs : List UInt8)
  | day (d : Day)
  | moment (m : Moment)
  | list (items : List Value)
  | tuple (items : List Value)
  | set (items : List Value)
  | map (entries : List (Value × Value))
  | loop (isMap : Bool)
  deriving Inhabited

namespace Value

/-! ## Kinds -/

def kindName : Value → String
  | .null => "NoneType"
  | .bool _ => "bool"
  | .int _ => "int"
  | .float _ => "float"
  | .text _ | .rough _ => "str"
  | .bytes _ => "bytes"
  | .day _ => "date"
  | .moment _ => "datetime"
  | .list _ | .loop false => "list"
  | .tuple _ => "tuple"
  | .set _ => "set"
  | .map _ | .loop true => "dict"

def isNull : Value → Bool
  | .null => true
  | _ => false

/-- Whether a value counts as absent: null, false, zero, or empty. -/
def isVoid : Value → Bool
  | .null => true
  | .bool b => !b
  | .int n => n = 0
  | .float x => x == 0
  | .text s => s.isEmpty
  | .rough ps => ps.isEmpty
  | .bytes bs => bs.isEmpty
  | .list items | .set items | .tuple items => items.isEmpty
  | .map entries => entries.isEmpty
  | .day _ | .moment _ | .loop _ => false

/-- Whether a value may be the key of a map: one that nothing can be put
into. -/
def isKey : Value → Bool
  | .list _ | .set _ | .map _ | .loop _ => false
  | _ => true

def ofPoints (ps : Text.Points) : Value :=
  match Text.textOf? ps with
  | some s => .text s
  | none => .rough ps

def texts (ss : List String) : Value := .list (ss.map .text)

def textTuple (ss : List String) : Value := .tuple (ss.map .text)

def textPairs (ps : List (String × String)) : Value :=
  .list (ps.map fun p => .list [.text p.1, .text p.2])

/-! ## Display -/

def byteChar (quote : Char) (b : UInt8) : List Char :=
  if 0x7F ≤ b then Text.codeEscape b.toNat else Text.quotedChar quote (Char.ofNat b.toNat)

def bytesDisplay (bs : List UInt8) : String :=
  let quote := Text.quoteFor (bs.map fun b => Char.ofNat b.toNat)
  String.ofList ('b' :: quote :: bs.flatMap (byteChar quote) ++ [quote])

mutual

def display : Value → String
  | .null => "None"
  | .bool true => "True"
  | .bool false => "False"
  | .int n => Text.intText n
  | .float x => Decimal.floatText x
  | .text s => Text.quoted s
  | .rough ps => Text.quotedPoints ps
  | .bytes bs => bytesDisplay bs
  | .day d => d.display
  | .moment m => m.display
  | .tuple [v] => "(" ++ display v ++ ",)"
  | .tuple items => "(" ++ String.intercalate ", " (displayItems items) ++ ")"
  | .set [] => "set()"
  | .set items => "\x7b" ++ String.intercalate ", " (displayItems items) ++ "\x7d"
  | .loop false => "[...]"
  | .loop true => "\x7b...\x7d"
  | .list items => "[" ++ String.intercalate ", " (displayItems items) ++ "]"
  | .map entries => "\x7b" ++ String.intercalate ", " (displayEntries entries) ++ "\x7d"

def displayItems : List Value → List String
  | [] => []
  | v :: vs => display v :: displayItems vs

def displayEntries : List (Value × Value) → List String
  | [] => []
  | (k, v) :: es => (display k ++ ": " ++ display v) :: displayEntries es

end

/-- A record spelled out: its name, and its fields between parentheses. -/
def recordDisplay (name : String) (fields : List (String × Value)) : String :=
  name ++ "(" ++ String.intercalate ", " (fields.map fun f => f.1 ++ "=" ++ f.2.display) ++ ")"

/-- A value as running text: text is itself, a day and a moment stand in
figures, all else is spelled out. -/
def plain : Value → String
  | .text s => s
  | .rough ps => Text.shownPoints ps
  | .day d => d.text
  | .moment m => m.text
  | v => v.display

def word : Value → String
  | .rough ps => Text.shownPoints (Text.lowerPoints ps)
  | v => Text.lowercase v.plain

/-! ## Numbers that are too long -/

/-- Whether a whole number has few enough digits to be written. -/
def isWritable (n : Int) : Bool := n.natAbs < Decimal.ten Text.numeralLimit

mutual

def isShowable : Value → Bool
  | .int n => isWritable n
  | .list items | .set items | .tuple items => areShowable items
  | .map entries => entriesShowable entries
  | _ => true

def areShowable : List Value → Bool
  | [] => true
  | v :: vs => isShowable v && areShowable vs

def entriesShowable : List (Value × Value) → Bool
  | [] => true
  | (k, v) :: es => isShowable k && isShowable v && entriesShowable es

end

/-- What `show_` makes of a value, unless a number in it is too long. -/
def shownBy (show_ : Value → String) (v : Value) : Except Abort String :=
  if v.isShowable then .ok (show_ v) else .error .numberTooLong

/-! ## Sameness -/

/-- A truth value counts as a number: one or zero. -/
def ofBool (b : Bool) : Int := if b then 1 else 0

mutual

/-- Whether two values are the same. Numbers are compared by what they
count, whatever their kind, and sets and maps without regard to order. What
is no number is the same as itself. -/
def same : Value → Value → Bool
  | .null, .null => true
  | .bool a, .bool b => a = b
  | .bool a, .int b => ofBool a = b
  | .bool a, .float b => Decimal.sameNumber (ofBool a) b
  | .int a, .bool b => a = ofBool b
  | .int a, .int b => a = b
  | .int a, .float b => Decimal.sameNumber a b
  | .float a, .bool b => Decimal.sameNumber (ofBool b) a
  | .float a, .int b => Decimal.sameNumber b a
  | .float a, .float b => a == b || (a.isNaN && b.isNaN)
  | .text a, .text b => a = b
  | .rough a, .rough b => a = b
  | .bytes as, .bytes bs => as = bs
  | .day a, .day b => a = b
  | .moment a, .moment b => a.same b
  | .tuple as, .tuple bs => sameItems as bs
  | .set as, .set bs => as.length = bs.length && areAmong as bs
  | .list as, .list bs => sameItems as bs
  | .map as, .map bs => as.length = bs.length && sameEntries as bs
  | _, _ => false

/-- Whether two lists hold the same values, one by one. -/
def sameItems : List Value → List Value → Bool
  | [], [] => true
  | a :: as, b :: bs => same a b && sameItems as bs
  | _, _ => false

/-- Whether each of the first values is one of the second. -/
def areAmong : List Value → List Value → Bool
  | [], _ => true
  | a :: as, bs => bs.any (fun b => same a b) && areAmong as bs

/-- Whether each entry of the first map is one of the second. -/
def sameEntries : List (Value × Value) → List (Value × Value) → Bool
  | [], _ => true
  | (k, v) :: es, bs => bs.any (fun b => same k b.1 && same v b.2) && sameEntries es bs

end

/-! ## Maps -/

/-- The value at a text key, if the entries have one. -/
def lookup? (key : String) : List (Value × Value) → Option Value
  | [] => none
  | (.text k, v) :: es => if k = key then some v else lookup? key es
  | _ :: es => lookup? key es

end Value

end ThreeBlock
