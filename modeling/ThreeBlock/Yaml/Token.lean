-- The tokens of a YAML text: marks, properties and scalars, with the
-- indentation of the text told as starts and ends of blocks.
import ThreeBlock.Yaml.Scalars
namespace ThreeBlock.Yaml

/-! ## Tokens -/

/-- What a directive says. -/
inductive Directive where
  /-- The version of the language, by its first number. -/
  | version (major : Nat)
  | handle (name stands : String)
  | other
  deriving DecidableEq, Repr

/-- A token. -/
inductive Token where
  | directive (d : Directive)
  | documentStart
  | documentEnd
  | blockListStart
  | blockMapStart
  | blockEnd
  | flowListStart
  | flowListEnd
  | flowMapStart
  | flowMapEnd
  | blockItem
  | flowItem
  | key
  | value
  | reference (name : String)
  | anchor (name : String)
  | tag (handle : Option String) (suffix : String)
  | scalar (plain : Bool) (text : Text.Points)
  | streamEnd
  deriving DecidableEq, Repr

/-! ## Names -/

/-- Whether a character may occur in the name of an anchor or handle. -/
def isNameChar (c : Char) : Bool :=
  Text.isDigit c || ('A' ≤ c && c ≤ 'Z') || ('a' ≤ c && c ≤ 'z') || c = '-' || c = '_'

def anchorName (c : Cursor) : Except Error (String × Cursor) :=
  let (name, c) := c.advance.takeWhile isNameChar
  if name = [] then c.refuse .badAnchor
  else if isSpacing c.peek || "?:,]\x7d%@\x60".toList.contains c.peek then
    .ok (String.ofList name, c)
  else c.refuse .badAnchor

/-! ## Tags -/

def isTagChar (c : Char) : Bool :=
  isNameChar c || ";/?:@&=+$,.!~*'()[]".toList.contains c

/-- The bytes of the percent escapes ahead, and the place behind them. The
number bounds them. -/
def percentBytes : Nat → List UInt8 → Cursor → Except Error (List UInt8 × Cursor)
  | 0, acc, c => .ok (acc.reverse, c)
  | n + 1, acc, c =>
    if c.peek ≠ '%' then .ok (acc.reverse, c)
    else
      let digits := (c.advance.rest.take 2).takeWhile (isDigitIn 16)
      let after := c.skip (digits.length + 1)
      if digits.length < 2 then after.refuse .badTag
      else percentBytes n ((digitsValue 16 digits).toUInt8 :: acc) after

/-- The tag ahead. The number bounds its pieces. -/
def tagText : Nat → List Char → Cursor → Except Error (String × Cursor)
  | 0, _, c => c.refuse .badTag
  | n + 1, acc, c => do
    let (run, c) := c.takeWhile isTagChar
    let acc := acc ++ run
    if c.peek = '%' then
      let (bytes, c) ← percentBytes c.bound [] c
      match String.fromUTF8? ⟨bytes.toArray⟩ with
      | none => c.refuse .badTag
      | some s => tagText n (acc ++ s.toList) c
    else if acc = [] then c.refuse .badTag
    else return (String.ofList acc, c)

def tagHandle (c : Cursor) : Except Error (String × Cursor) :=
  if c.peek ≠ '!' then c.refuse .badTag
  else if c.peekAt 1 = ' ' then .ok ("!", c.advance)
  else
    let (name, c) := c.advance.takeWhile isNameChar
    if c.peek = '!' then .ok (String.ofList ('!' :: name ++ ['!']), c.advance)
    else c.refuse .badTag

def hasHandle (c : Cursor) : Bool :=
  (c.rest.drop 1 |>.takeWhile fun ch => !isBreakOrEnd ch && ch ≠ ' ').contains '!'

def tagParts (c : Cursor) : Except Error (Option String × String × Cursor) := do
  let next := c.peekAt 1
  if next = '<' then
    let (suffix, c) ← tagText c.bound [] (c.skip 2)
    if c.peek = '>' then return (none, suffix, c.advance) else c.refuse .badTag
  else if isSpacing next then return (none, "!", c.advance)
  else
    let (handle, c) ← if hasHandle c then tagHandle c else pure ("!", c.advance)
    let (suffix, c) ← tagText c.bound [] c
    return (some handle, suffix, c)

def tagToken (c : Cursor) : Except Error (Token × Cursor) := do
  let (handle, suffix, c) ← tagParts c
  if isBreakOrEnd c.peek || c.peek = ' ' then return (.tag handle suffix, c)
  else c.refuse .badTag

/-! ## Directives -/

/-- Whether a directive or one of its parts may end in front of `c`. -/
def endsPart (c : Char) : Bool := isBreakOrEnd c || c = ' '

def versionNumber (c : Cursor) : Except Error (Nat × Cursor) :=
  let (digits, c) := c.takeWhile Text.isDigit
  if digits = [] then c.refuse .badDirective
  else
    match readNumeral digits with
    | .ok n => .ok (n, c)
    | .error a => c.refuse (.aborted a)

def versionValue (c : Cursor) : Except Error (Directive × Cursor) := do
  let (major, c) ← versionNumber c
  if c.peek ≠ '.' then c.refuse .badDirective
  else
    let (_, c) ← versionNumber c.advance
    if endsPart c.peek then return (.version major, c) else c.refuse .badDirective

def handleValue (c : Cursor) : Except Error (Directive × Cursor) := do
  let (name, c) ← tagHandle c
  if c.peek ≠ ' ' then c.refuse .badDirective
  else
    let c := c.skipWhile (· = ' ')
    let (stands, c) ← tagText c.bound [] c
    if endsPart c.peek then return (.handle name stands, c) else c.refuse .badDirective

def directiveToken (c : Cursor) : Except Error (Token × Cursor) := do
  let (name, c) := c.advance.takeWhile isNameChar
  if name = [] || !endsPart c.peek then c.refuse .badDirective
  else
    let behind := c.skipWhile (· = ' ')
    let (d, c) ←
      if name = "YAML".toList then versionValue behind
      else if name = "TAG".toList then handleValue behind
      else pure (.other, c.skipWhile fun ch => !isBreak ch)
    let c := (c.skipWhile (· = ' ')).skipComment
    if isBreakOrEnd c.peek then
      return (.directive d, match c.takeBreak with | some (_, c) => c | none => c)
    else c.refuse .badDirective

end ThreeBlock.Yaml
