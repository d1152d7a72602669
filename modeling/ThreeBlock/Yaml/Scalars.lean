-- The three ways to write a scalar: plain, between quotes, or as a block of
-- indented lines. Each gives the text of the scalar and the place behind
-- it. Between double quotes an escape may spell a code point that stands
-- for no character.
import ThreeBlock.Text.Points
import ThreeBlock.Yaml.Cursor
import ThreeBlock.Yaml.Digits
namespace ThreeBlock.Yaml

/-! ## Plain -/

def isFlowMark (c : Char) : Bool :=
  c = ',' || c = '[' || c = ']' || c = '\x7b' || c = '\x7d'

/-- Whether a plain scalar stops in front of `c`, with `next` behind it. -/
def plainStops (inFlow : Bool) (c next : Char) : Bool :=
  isSpacing c ||
    (c = ':' && (isSpacing next || (inFlow && isFlowMark next))) ||
    (inFlow && (isFlowMark c || c = '?'))

/-- How many characters a plain scalar runs on without a space. -/
def plainRun (inFlow : Bool) : List Char → Nat
  | [] => 0
  | c :: cs => if plainStops inFlow c (cs.headD nul) then 0 else plainRun inFlow cs + 1

/-- The breaks of the blank lines ahead, unless a document mark turns up.
The number bounds how far to look. -/
def blankBreaks : Nat → List Char → Cursor → Option (List Char) × Cursor
  | 0, acc, c => (some acc.reverse, c)
  | n + 1, acc, c =>
    if c.peek = ' ' then blankBreaks n acc c.advance
    else
      match c.takeBreak with
      | none => (some acc.reverse, c)
      | some (b, c) => if c.atMark then (none, c) else blankBreaks n (b :: acc) c

/-- What joins two runs of a plain scalar. -/
structure Gap where
  /-- The characters between the runs; none if the scalar ends here. -/
  chars : List Char
  after : Cursor
  overLine : Bool

def plainGap (c : Cursor) : Gap :=
  let (spaces, c) := c.takeWhile (· = ' ')
  match c.takeBreak with
  | none => ⟨spaces, c, false⟩
  | some (b, c) =>
    if c.atMark then ⟨[], c, true⟩
    else
      match blankBreaks c.bound [] c with
      | (none, c) => ⟨[], c, true⟩
      | (some more, c) => ⟨foldBreak b more, c, true⟩

/-- A plain scalar: its pieces, the last one first, the place behind it, and
whether a line ended after its last run. -/
structure Plain where
  pieces : List (List Char)
  after : Cursor
  lineEnded : Bool

def Plain.chars (p : Plain) : List Char := p.pieces.reverse.flatten

/-- The rest of a plain scalar whose lines are indented by `indent` at
least. The number bounds the runs. -/
def plainFrom (inFlow : Bool) (indent : Int) : Nat → Plain → List Char → Plain
  | 0, p, _ => p
  | n + 1, p, gap =>
    let length := plainRun inFlow p.after.rest
    if p.after.peek = '#' || length = 0 then p
    else
      let run := p.after.rest.take length
      let g := plainGap (p.after.skip length)
      let p := ⟨run :: gap :: p.pieces, g.after, g.overLine⟩
      if g.chars = [] || g.after.peek = '#' || (!inFlow && g.after.column < indent) then p
      else plainFrom inFlow indent n p g.chars

def plainScalar (inFlow : Bool) (indent : Int) (c : Cursor) : Plain :=
  plainFrom inFlow indent c.bound ⟨[], c, false⟩ []

/-! ## Between quotes -/

/-- The character that a one-letter escape stands for. -/
def simpleEscape? (c : Char) : Option Char :=
  [('0', '\x00'), ('a', '\x07'), ('b', '\x08'), ('t', '\t'), ('\t', '\t'), ('n', '\n'),
    ('v', '\x0B'), ('f', '\x0C'), ('r', '\r'), ('e', '\x1B'), (' ', ' '), ('"', '"'),
    ('\\', '\\'), ('/', '/'), ('N', '\u0085'), ('_', '\u00A0'), ('L', '\u2028'),
    ('P', '\u2029')].lookup c

/-- How many hexadecimal digits follow the letter of an escape. -/
def escapeWidth? (c : Char) : Option Nat := [('x', 2), ('u', 4), ('U', 8)].lookup c

def codePoint (code : Nat) : Except Error Nat :=
  if 0x7FFFFFFF < code then .error (.aborted .codeTooGreat)
  else if 0x10FFFF < code then .error (.aborted .noCharacter)
  else .ok code

/-- The breaks ahead inside quotes, with the blanks around them left out. -/
def quotedBreaks : Nat → List Char → Cursor → Except Error (List Char × Cursor)
  | 0, acc, c => .ok (acc.reverse, c)
  | n + 1, acc, c => do
    c.reach markLength
    if c.atMark then c.refuse .markInQuote
    else
      let c := c.skipWhile fun ch => ch = ' ' || ch = '\t'
      match c.takeBreak with
      | none => return (acc.reverse, c)
      | some (b, c) => quotedBreaks n (b :: acc) c

def quotedEscape (c : Cursor) : Except Error (Text.Points × Cursor) :=
  match simpleEscape? c.peek, escapeWidth? c.peek with
  | some ch, _ => .ok ([ch.toNat], c.advance)
  | none, some width =>
    let digits := (c.advance.rest.take width).takeWhile (isDigitIn 16)
    let after := c.skip (digits.length + 1)
    if digits.length < width then after.refuse .badEscape
    else (codePoint (digitsValue 16 digits)).map fun code => ([code], after)
  | none, none =>
    match c.takeBreak with
    | some (_, c) => (quotedBreaks c.bound [] c).map fun r => (Text.pointsOf r.1, r.2)
    | none => c.refuse .badEscape

/-- The characters ahead inside quotes, up to the next blank, break or end.
The number bounds them. -/
def quotedRun (double : Bool) : Nat → List Text.Points → Cursor →
    Except Error (List Text.Points × Cursor)
  | 0, acc, c => .ok (acc, c)
  | n + 1, acc, c =>
    let ch := c.peek
    if !double && ch = '\'' && c.peekAt 1 = '\'' then
      quotedRun double n ([ch.toNat] :: acc) (c.skip 2)
    else if double && ch = '\\' then do
      let (ps, c) ← quotedEscape c.advance
      quotedRun double n (ps :: acc) c
    else if ch = (if double then '"' else '\'') || isSpacing ch then .ok (acc, c)
    else quotedRun double n ([ch.toNat] :: acc) c.advance

/-- The blanks ahead inside quotes, folded when they go over lines. -/
def quotedGap (c : Cursor) : Except Error (List Char × Cursor) := do
  let (blanks, c) := c.takeWhile fun ch => ch = ' ' || ch = '\t'
  if c.peek = nul then c.refuse .openQuote
  else
    match c.takeBreak with
    | none => return (blanks, c)
    | some (b, c) =>
      let (more, c) ← quotedBreaks c.bound [] c
      return (foldBreak b more, c)

/-- The rest of a quoted scalar. The number bounds the runs. -/
def quotedFrom (double : Bool) : Nat → List Text.Points → Cursor →
    Except Error (Text.Points × Cursor)
  | 0, _, _ => .error .openQuote
  | n + 1, acc, c => do
    let (acc, c) ← quotedRun double c.bound acc c
    if c.peek = (if double then '"' else '\'') then return (acc.reverse.flatten, c.advance)
    else
      let (gap, c) ← quotedGap c
      quotedFrom double n (Text.pointsOf gap :: acc) c

def quotedScalar (double : Bool) (c : Cursor) : Except Error (Text.Points × Cursor) :=
  quotedFrom double c.bound [] c.advance

/-! ## As a block -/

/-- What becomes of the line breaks at the end of a block. -/
inductive Chomping where
  | clip
  | strip
  | keep
  deriving DecidableEq

/-- The sign that says what becomes of the breaks at the end, if it is
ahead. -/
def chompingSign (c : Cursor) : Option (Chomping × Cursor) :=
  if c.peek = '+' then some (.keep, c.advance)
  else if c.peek = '-' then some (.strip, c.advance)
  else none

/-- The digit that says how far a block is indented, if it is ahead. -/
def indentDigit (c : Cursor) : Except Error (Option Nat × Cursor) :=
  let ch := c.peek
  if ch = '0' then c.refuse .badBlockHeader
  else if Text.isDigit ch then .ok (some (Text.digitValue ch), c.advance)
  else .ok (none, c)

def blockHeader (c : Cursor) : Except Error (Chomping × Option Nat × Cursor) := do
  let (chomping, digit, c) ←
    match chompingSign c with
    | some (chomping, c) => do
      let (digit, c) ← indentDigit c
      pure (chomping, digit, c)
    | none => do
      let (digit, c) ← indentDigit c
      match digit, chompingSign c with
      | some _, some (chomping, c) => pure (chomping, digit, c)
      | _, _ => pure (.clip, digit, c)
  if c.peek ≠ ' ' && !isBreakOrEnd c.peek then c.refuse .badBlockHeader
  else
    let c := (c.skipWhile (· = ' ')).skipComment
    if isBreakOrEnd c.peek then
      return (chomping, digit, match c.takeBreak with | some (_, c) => c | none => c)
    else c.refuse .badBlockHeader

/-- The breaks of the blank lines at the top of a block, and the widest
indent among them and the first line. -/
def blockTop : Nat → List Char → Nat → Cursor → List Char × Nat × Cursor
  | 0, acc, widest, c => (acc.reverse, widest, c)
  | n + 1, acc, widest, c =>
    if c.peek = ' ' then
      let c := c.advance
      blockTop n acc (max widest c.column) c
    else
      match c.takeBreak with
      | some (b, c) => blockTop n (b :: acc) widest c
      | none => (acc.reverse, widest, c)

def toColumn (indent : Nat) : Nat → Cursor → Cursor
  | 0, c => c
  | n + 1, c => if c.column < indent && c.peek = ' ' then toColumn indent n c.advance else c

def blockBreaks (indent : Nat) : Nat → List Char → Cursor → List Char × Cursor
  | 0, acc, c => (acc.reverse, c)
  | n + 1, acc, c =>
    let c := toColumn indent c.bound c
    match c.takeBreak with
    | some (b, c) => blockBreaks indent n (b :: acc) c
    | none => (acc.reverse, c)

/-- The lines of a block from the one ahead on. `breaks` stand in front of
it; the number bounds the lines. -/
def blockLines (folded : Bool) (chomping : Chomping) (indent : Nat) :
    Nat → List (List Char) → List Char → Cursor → List Char × Cursor
  | 0, acc, _, c => (acc.reverse.flatten, c)
  | n + 1, acc, breaks, c =>
    let startsBlank := c.peek = ' ' || c.peek = '\t'
    let (line, c) := c.takeWhile fun ch => !isBreak ch
    let (last, c) := match c.takeBreak with
      | some (b, c) => ([b], c)
      | none => ([], c)
    let (more, c) := blockBreaks indent c.bound [] c
    let acc := line :: breaks :: acc
    if c.column = indent && c.peek ≠ nul then
      let joins := folded && last = ['\n'] && !startsBlank && c.peek ≠ ' ' && c.peek ≠ '\t'
      let glue := if joins then (if more = [] then [' '] else []) else last
      blockLines folded chomping indent n (glue :: acc) more c
    else
      let ending := match chomping with
        | .strip => []
        | .clip => last
        | .keep => last ++ more
      ((ending :: acc).reverse.flatten, c)

/-- The block scalar ahead, from its mark on, inside a block indented by
`outer`. -/
def blockScalar (folded : Bool) (outer : Int) (c : Cursor) :
    Except Error (Text.Points × Cursor) := do
  let (chomping, digit, c) ← blockHeader c.advance
  let least := max 1 (outer + 1).toNat
  let (breaks, indent, c) := match digit with
    | some d =>
      let indent := least + d - 1
      let (breaks, c) := blockBreaks indent c.bound [] c
      (breaks, indent, c)
    | none =>
      let (breaks, widest, c) := blockTop c.bound [] 0 c
      (breaks, max least widest, c)
  if c.column = indent && c.peek ≠ nul then
    let (chars, c) := blockLines folded chomping indent c.bound [] breaks c
    return (Text.pointsOf chars, c)
  else return (if chomping = .keep then Text.pointsOf breaks else [], c)

end ThreeBlock.Yaml
