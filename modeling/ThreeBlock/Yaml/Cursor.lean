-- A place in a YAML text: the characters ahead, and the line, column and
-- index reached. Beyond the end of the text every character reads as NUL,
-- which no text holds. A text may end at a wall: what follows could not be
-- read, and whoever gets there meets the error of the wall.
import ThreeBlock.Yaml.Error
namespace ThreeBlock.Yaml

/-! ## Characters -/

def nul : Char := '\x00'

def isBreak (c : Char) : Bool :=
  c = '\n' || c = '\r' || c = '\u0085' || c = '\u2028' || c = '\u2029'

def isBreakOrEnd (c : Char) : Bool := isBreak c || c = nul

def isSpacing (c : Char) : Bool := isBreakOrEnd c || c = ' ' || c = '\t'

def isAcceptable (c : Char) : Bool :=
  c = '\t' || c = '\n' || c = '\r' || c = '\u0085' || (' ' ≤ c && c ≤ '~') ||
    (0xA0 ≤ c.toNat && c.toNat ≤ 0xFFFD) || 0x10000 ≤ c.toNat

def markLength : Nat := 3

def byteOrderMark : Char := '\uFEFF'

/-! ## Places -/

/-- A place in a text. -/
structure Cursor where
  rest : List Char
  bound : Nat
  line : Nat := 0
  column : Nat := 0
  index : Nat := 0
  /-- The error behind the last character, if the text is cut short there. -/
  wall : Option Error := none

namespace Cursor

/-- The next `n` characters are looked at: they must stand in front of the
wall. -/
def reach (c : Cursor) (n : Nat) : Except Error Unit :=
  match c.wall with
  | none => .ok ()
  | some e => if (c.rest.take n).length < n then .error e else .ok ()

/-- An error found by the next character, unless a wall is in front of it. -/
def refuse {α : Type} (c : Cursor) (e : Error) : Except Error α := do
  c.reach 1
  throw e

def peek (c : Cursor) : Char := c.rest.headD nul

def peekAt (c : Cursor) (n : Nat) : Char := c.rest.getD n nul

def advance (c : Cursor) : Cursor :=
  match c.rest with
  | [] => c
  | ch :: cs =>
    let next := { c with rest := cs, index := c.index + 1 }
    if isBreak ch && !(ch = '\r' && cs.headD nul = '\n') then
      { next with line := c.line + 1, column := 0 }
    else if ch = byteOrderMark then next
    else { next with column := c.column + 1 }

def skip : Nat → Cursor → Cursor
  | 0, c => c
  | n + 1, c => skip n c.advance

/-- The next characters that pass a test, and the place behind them. -/
def takeWhile (p : Char → Bool) (c : Cursor) : List Char × Cursor :=
  let cs := c.rest.takeWhile p
  (cs, c.skip cs.length)

def skipWhile (p : Char → Bool) (c : Cursor) : Cursor := (c.takeWhile p).2

/-- The line break ahead, as the one character that stands for it. -/
def takeBreak (c : Cursor) : Option (Char × Cursor) :=
  match c.rest with
  | '\r' :: '\n' :: _ => some ('\n', c.skip 2)
  | ch :: _ =>
    if ch = '\u2028' || ch = '\u2029' then some (ch, c.advance)
    else if isBreak ch then some ('\n', c.advance)
    else none
  | [] => none

def atMark (c : Cursor) : Bool :=
  (c.rest.take 3 = ['-', '-', '-'] || c.rest.take 3 = ['.', '.', '.']) && isSpacing (c.peekAt 3)

/-- The place behind a comment, if one is ahead. -/
def skipComment (c : Cursor) : Cursor :=
  if c.peek = '#' then c.skipWhile fun ch => !isBreak ch else c

end Cursor

/-! ## Folding -/

/-- What a line break turns into, when further breaks follow it. -/
def foldBreak (first : Char) (more : List Char) : List Char :=
  (if first ≠ '\n' then [first] else if more = [] then [' '] else []) ++ more

end ThreeBlock.Yaml
