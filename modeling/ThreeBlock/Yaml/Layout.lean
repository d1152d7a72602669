-- From a YAML text to its tokens. Outside brackets the column of a line
-- opens and closes blocks. A scalar may turn out to be a key when a colon
-- follows it on its line; the places where that may still happen are kept
-- until the line is over. A reader of the tokens gets those in front of such
-- a place only when it is settled, so that an error may come too late to be
-- met.
import ThreeBlock.Yaml.Token
namespace ThreeBlock.Yaml

/-! ## The state of the reading -/

/-- A place that turns into a key when a colon follows. -/
structure KeySpot where
  before : Nat
  required : Bool
  line : Nat
  column : Nat
  index : Nat

/-- The state of the reading. -/
structure Layout where
  here : Cursor
  /-- The tokens so far, the last one first. -/
  tokens : List Token := []
  count : Nat := 0
  depth : Nat := 0
  indent : Int := -1
  outer : List Int := []
  keyAllowed : Bool := true
  spots : List (Nat × KeySpot) := []

namespace Layout

def push (s : Layout) (t : Token) : Layout :=
  { s with tokens := t :: s.tokens, count := s.count + 1 }

/-- The state with a token put behind the first `n` of them. -/
def insertAfter (s : Layout) (n : Nat) (t : Token) : Layout :=
  let k := s.count - n
  { s with tokens := s.tokens.take k ++ t :: s.tokens.drop k, count := s.count + 1 }

/-- The spot among the open brackets here, if there is one. -/
def spot? (s : Layout) : Option KeySpot := s.spots.lookup s.depth

def dropSpot (s : Layout) : Layout :=
  { s with spots := s.spots.filter fun e => e.1 ≠ s.depth }

/-- Give up the spot here: it must not be one that needs its colon. -/
def giveUpSpot (s : Layout) : Except Error Layout :=
  match s.spot? with
  | none => .ok s
  | some k => if k.required then .error .missingColon else .ok s.dropSpot

def markSpot (s : Layout) : Except Error Layout := do
  if s.keyAllowed then
    let s ← s.giveUpSpot
    let c := s.here
    let spot : KeySpot := ⟨s.count, s.depth = 0 && s.indent = c.column, c.line, c.column, c.index⟩
    return { s with spots := (s.depth, spot) :: s.spots }
  else return s

/-- Whether a spot is out of reach: on another line, or too far back. -/
def isStale (c : Cursor) (k : KeySpot) : Bool := k.line ≠ c.line || 1024 < c.index - k.index

def dropStale (s : Layout) : Except Error Layout :=
  if s.spots.any fun e => isStale s.here e.2 && e.2.required then .error .missingColon
  else .ok { s with spots := s.spots.filter fun e => !isStale s.here e.2 }

/-- Close the blocks that are indented by more than `column`. The number
bounds them. -/
def closeBlocks (column : Int) : Nat → Layout → Layout
  | 0, s => s
  | n + 1, s =>
    if column < s.indent then
      closeBlocks column n
        { s.push .blockEnd with indent := s.outer.headD (-1), outer := s.outer.tail }
    else s

/-- Close the blocks that the column ends; brackets keep them open. -/
def unwind (s : Layout) (column : Int) : Layout :=
  if s.depth = 0 && column < s.indent then closeBlocks column (s.outer.length + 1) s else s

/-- Open a block at a column, unless one is open there. -/
def openBlock (s : Layout) (column : Int) : Option Layout :=
  if s.indent < column then some { s with indent := column, outer := s.indent :: s.outer }
  else none

/-- Open a block of a kind at the column here, unless one is open there. -/
def openHere (s : Layout) (t : Token) : Layout :=
  match s.openBlock s.here.column with
  | some s => s.push t
  | none => s

/-! ## Blanks -/

/-- The place behind blanks, comments and line breaks. Outside brackets a new
line allows a key. -/
def skipBlanks : Nat → Layout → Layout
  | 0, s => s
  | n + 1, s =>
    let c := (s.here.skipWhile (· = ' ')).skipComment
    match c.takeBreak with
    | some (_, c) => skipBlanks n { s with here := c, keyAllowed := s.keyAllowed || s.depth = 0 }
    | none => { s with here := c }

def skipMark (s : Layout) : Layout :=
  if s.here.index = 0 && s.here.peek = byteOrderMark then { s with here := s.here.advance } else s

/-! ## Marks -/

def documentMark (s : Layout) (t : Token) (after : Cursor) : Except Error Layout := do
  let s ← (s.unwind (-1)).giveUpSpot
  return { s.push t with here := after, keyAllowed := false }

def openBracket (s : Layout) (t : Token) : Except Error Layout := do
  let s ← s.markSpot
  return { s.push t with here := s.here.advance, depth := s.depth + 1, keyAllowed := true }

def closeBracket (s : Layout) (t : Token) : Except Error Layout := do
  let s ← s.giveUpSpot
  if s.depth = 0 then .error (.unexpected "the node content")
  else return { s.push t with here := s.here.advance, depth := s.depth - 1, keyAllowed := false }

def comma (s : Layout) : Except Error Layout := do
  let s ← s.giveUpSpot
  return { s.push .flowItem with here := s.here.advance, keyAllowed := true }

def dash (s : Layout) : Except Error Layout := do
  if s.depth = 0 && !s.keyAllowed then .error (.misplaced "sequence entries")
  else
    let s := if s.depth = 0 then s.openHere .blockListStart else s
    let s ← s.giveUpSpot
    return { s.push .blockItem with here := s.here.advance, keyAllowed := true }

def question (s : Layout) : Except Error Layout := do
  if s.depth = 0 && !s.keyAllowed then .error (.misplaced "mapping keys")
  else
    let s := if s.depth = 0 then s.openHere .blockMapStart else s
    let s ← s.giveUpSpot
    return { s.push .key with here := s.here.advance, keyAllowed := s.depth = 0 }

/-- The colon of a value: what stands at the spot here turns into its key. -/
def colon (s : Layout) : Except Error Layout := do
  match s.spot? with
  | some k =>
    let s := s.dropSpot.insertAfter k.before .key
    let s :=
      if s.depth = 0 then
        match s.openBlock k.column with
        | some s => s.insertAfter k.before .blockMapStart
        | none => s
      else s
    return { s.push .value with here := s.here.advance, keyAllowed := false }
  | none =>
    if s.depth = 0 && !s.keyAllowed then .error (.misplaced "mapping values")
    else
      let s := if s.depth = 0 then s.openHere .blockMapStart else s
      return { s.push .value with here := s.here.advance, keyAllowed := s.depth = 0 }

/-! ## Content -/

/-- A token that may be a key or stand in front of one. -/
def content (s : Layout) (read : Cursor → Except Error (Token × Cursor)) : Except Error Layout := do
  let s ← s.markSpot
  let (t, c) ← read s.here
  return { s.push t with here := c, keyAllowed := false }

def scalarToken (r : Except Error (Text.Points × Cursor)) : Except Error (Token × Cursor) :=
  r.map fun p => (.scalar false p.1, p.2)

/-- What was looked at behind a plain scalar that started at a line: the
start of the last line, if it is another one, and what follows a colon. -/
def reachBehind (line : Nat) (after : Cursor) : Except Error Unit := do
  if after.line ≠ line then after.reach (markLength - after.column)
  if after.peek = ':' then after.reach 2

def plain (s : Layout) : Except Error Layout := do
  let s ← s.markSpot
  let p := plainScalar (s.depth ≠ 0) (s.indent + 1) s.here
  reachBehind s.here.line p.after
  let s := s.push (.scalar true (Text.pointsOf p.chars))
  return { s with here := p.after, keyAllowed := p.lineEnded }

def block (s : Layout) (folded : Bool) : Except Error Layout := do
  let s ← s.giveUpSpot
  let (t, c) ← scalarToken (blockScalar folded s.indent s.here)
  return { s.push t with here := c, keyAllowed := true }

def startsPlain (s : Layout) : Bool :=
  let ch := s.here.peek
  let next := s.here.peekAt 1
  !(isSpacing ch || "-?:,[]\x7b\x7d#&*!|>'\"%@\x60".toList.contains ch) ||
    (!isSpacing next && (ch = '-' || (s.depth = 0 && (ch = '?' || ch = ':'))))

/-! ## One token after the other -/

def finish (s : Layout) : Except Error Layout := do
  let s ← (s.unwind (-1)).giveUpSpot
  return s.push .streamEnd

def lookahead (s : Layout) : Nat :=
  let c := s.here
  let ch := c.peek
  if c.column = 0 && (ch = '-' || ch = '.') then markLength + (if c.atMark then 1 else 0)
  else if ch = '-' || (s.depth = 0 && (ch = '?' || ch = ':')) then 2
  else 1

/-- The next token, when the place is at its first character. -/
def next (s : Layout) : Except Error Layout := do
  let c := s.here
  c.reach s.lookahead
  let ch := c.peek
  let spaced := isSpacing (c.peekAt 1)
  if ch = '%' && c.column = 0 then
    let (t, after) ← directiveToken c
    s.documentMark t after
  else if c.column = 0 && c.atMark then
    s.documentMark (if ch = '-' then .documentStart else .documentEnd) (c.skip 3)
  else if ch = '[' then s.openBracket .flowListStart
  else if ch = '\x7b' then s.openBracket .flowMapStart
  else if ch = ']' then s.closeBracket .flowListEnd
  else if ch = '\x7d' then s.closeBracket .flowMapEnd
  else if ch = ',' then s.comma
  else if ch = '-' && spaced then s.dash
  else if ch = '?' && (s.depth ≠ 0 || spaced) then s.question
  else if ch = ':' && (s.depth ≠ 0 || spaced) then s.colon
  else if ch = '*' then s.content fun c => (anchorName c).map fun r => (.reference r.1, r.2)
  else if ch = '&' then s.content fun c => (anchorName c).map fun r => (.anchor r.1, r.2)
  else if ch = '!' then s.content tagToken
  else if ch = '|' && s.depth = 0 then s.block false
  else if ch = '>' && s.depth = 0 then s.block true
  else if ch = '\'' then s.content fun c => scalarToken (quotedScalar false c)
  else if ch = '"' then s.content fun c => scalarToken (quotedScalar true c)
  else if s.startsPlain then s.plain
  else
    c.reach 2
    throw (.strayCharacter ch)

/-- The state with the next token, and whether the text is over. -/
def step (s : Layout) : Except Error (Layout × Bool) := do
  let s ← s.dropStale
  let s := skipBlanks s.here.bound s.skipMark
  s.here.reach 1
  let s ← s.dropStale
  let s := s.unwind s.here.column
  if s.here.rest.isEmpty then return (← s.finish, true)
  else
    let s ← s.next
    s.here.reach 1
    return (s, false)

/-- How many tokens can be told: those in front of the first spot that may
still turn into a key. -/
def told (s : Layout) : Nat :=
  s.spots.foldl (fun n e => if isStale s.here e.2 then n else min n e.2.before) s.count

end Layout

/-! ## The whole text -/

/-- The tokens of a text, as far as they can be told, and the error that
keeps the rest from it. -/
structure Tokens where
  ahead : List Token
  trouble : Option Error := none

namespace Layout

/-- The tokens of the text from here on. The number bounds them. -/
def run : Nat → Layout → Tokens
  | 0, s => ⟨s.tokens.reverse, none⟩
  | n + 1, s =>
    match s.step with
    | .ok (s, ended) => if ended then ⟨s.tokens.reverse, none⟩ else run n s
    | .error e => ⟨s.tokens.reverse.take s.told, some e⟩

end Layout

def Tokens.ofText (text : List Char) (wall : Option Error) : Tokens :=
  let bound := text.length + 1
  Layout.run (bound + 1) { here := { rest := text, bound, wall } }

end ThreeBlock.Yaml
