-- Values as JSON text, in ASCII alone: every other character is written as
-- one or two escapes of UTF-16 units. A value is written on one line, or
-- over several with two blanks of indent for each level.
import ThreeBlock.Value
namespace ThreeBlock.Json

/-! ## Strings -/

def unitEscape (n : Nat) : List Char := '\\' :: 'u' :: Text.hexDigits 4 n

def stringChar (c : Char) : List Char :=
  if c = '"' then ['\\', '"']
  else if c = '\\' then ['\\', '\\']
  else if c = '\n' then ['\\', 'n']
  else if c = '\r' then ['\\', 'r']
  else if c = '\t' then ['\\', 't']
  else if c.toNat = 8 then ['\\', 'b']
  else if c.toNat = 12 then ['\\', 'f']
  else if 0x20 ≤ c.toNat && c.toNat < 0x7F then [c]
  else if c.toNat < 0x10000 then unitEscape c.toNat
  else
    let n := c.toNat - 0x10000
    unitEscape (0xD800 + n / 0x400) ++ unitEscape (0xDC00 + n % 0x400)

def string (s : String) : String :=
  String.ofList ('"' :: s.toList.flatMap stringChar ++ ['"'])

def pointString (ps : Text.Points) : String :=
  String.ofList ('"' :: ps.flatMap (fun n =>
    if Text.hasCharacter n then stringChar (Char.ofNat n) else unitEscape n) ++ ['"'])

/-! ## Values -/

def floatText (x : Float) : String :=
  let t := Decimal.floatText x
  if t = "nan" then "NaN"
  else if t = "inf" then "Infinity"
  else if t = "-inf" then "-Infinity"
  else t

/-- How the items of a list or map are set apart. -/
inductive Style where
  | oneLine
  | indented
  deriving DecidableEq, Repr

def Style.lead (style : Style) (depth : Nat) : String :=
  match style with
  | .oneLine => ""
  | .indented => "\n" ++ String.ofList (List.replicate (2 * depth) ' ')

def Style.between (style : Style) : String :=
  match style with
  | .oneLine => ", "
  | .indented => ","

def Style.enclose (style : Style) (depth : Nat) (opening closing : String)
    (items : List String) : String :=
  if items = [] then opening ++ closing
  else
    opening ++ String.intercalate style.between (items.map fun i => style.lead (depth + 1) ++ i) ++
      style.lead depth ++ closing

mutual

def write (style : Style) (depth : Nat) : Value → String
  | .null => "null"
  | .bool true => "true"
  | .bool false => "false"
  | .int n => Text.intText n
  | .float x => floatText x
  | .text s => string s
  | .rough ps => pointString ps
  | .list items | .set items | .tuple items =>
    style.enclose depth "[" "]" (writeItems style (depth + 1) items)
  | .bytes bs => string (Value.bytesDisplay bs)
  | .day d => string d.text
  | .moment m => string m.text
  | .loop _ => "null"
  | .map entries => style.enclose depth "\x7b" "\x7d" (writeEntries style (depth + 1) entries)

def writeItems (style : Style) (depth : Nat) : List Value → List String
  | [] => []
  | v :: vs => write style depth v :: writeItems style depth vs

def writeEntries (style : Style) (depth : Nat) : List (Value × Value) → List String
  | [] => []
  | (k, v) :: es =>
    (string k.plain ++ ": " ++ write style depth v) :: writeEntries style depth es

end

def line (v : Value) : String := write .oneLine 0 v

def page (v : Value) : String := write .indented 0 v ++ "\n"

end ThreeBlock.Json
