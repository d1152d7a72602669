-- Days and moments as YAML writes them: year, month and day, and perhaps
-- the time of day, a fraction of a second, and a distance from universal
-- time.
import ThreeBlock.Abort
namespace ThreeBlock.Yaml

/-! ## Parts -/

/-- The digits ahead, at least `least` and at most `most` of them, and what
is behind them. -/
def digitsAhead (least most : Nat) (cs : List Char) : Option (Nat × List Char) :=
  let ds := (cs.take most).takeWhile Text.isDigit
  if ds.length < least then none else some (Text.numeralValue ds, cs.drop ds.length)

/-- What is behind a character, if it is the one ahead. -/
def behind (c : Char) : List Char → Option (List Char)
  | [] => none
  | d :: ds => if d = c then some ds else none

def isBlankOrTab (c : Char) : Bool := c = ' ' || c = '\t'

def dayAhead (cs : List Char) : Option (Day × List Char) := do
  let (year, cs) ← digitsAhead 4 4 cs
  let (month, cs) ← behind '-' cs >>= digitsAhead 1 2
  let (day, cs) ← behind '-' cs >>= digitsAhead 1 2
  return (⟨year, month, day⟩, cs)

def behindTimeMark : List Char → Option (List Char)
  | 'T' :: cs | 't' :: cs => some cs
  | c :: cs => if isBlankOrTab c then some (cs.dropWhile isBlankOrTab) else none
  | [] => none

/-- The millionths of a second ahead; further digits do not count. -/
def microAhead (cs : List Char) : Nat × List Char :=
  match cs with
  | '.' :: cs =>
    let ds := cs.takeWhile Text.isDigit
    let six := (ds ++ List.replicate 6 '0').take 6
    (Text.numeralValue six, cs.drop ds.length)
  | _ => (0, cs)

def aheadRest (cs : List Char) : Option (Option Int) :=
  match cs.dropWhile isBlankOrTab with
  | ['Z'] => some (some 0)
  | c :: rest =>
    if c = '+' || c = '-' then do
      let (hours, rest) ← digitsAhead 1 2 rest
      let (minutes, rest) ←
        if rest = [] then some (0, []) else behind ':' rest >>= digitsAhead 2 2
      let seconds : Int := 3600 * hours + 60 * minutes
      if rest = [] then some (some (if c = '-' then -seconds else seconds)) else none
    else none
  | [] => if cs = [] then some none else none

/-! ## The whole -/

/-- A day or a moment. -/
inductive Stamp where
  | day (d : Day)
  | moment (m : Moment)
  deriving DecidableEq, Repr

def momentRest (day : Day) (cs : List Char) : Option Moment := do
  let (hour, cs) ← digitsAhead 1 2 cs
  let (minute, cs) ← behind ':' cs >>= digitsAhead 2 2
  let (second, cs) ← behind ':' cs >>= digitsAhead 2 2
  let (micro, cs) := microAhead cs
  let ahead ← aheadRest cs
  return { day, hour, minute, second, micro, ahead }

/-- The day or moment that a text is written like, whether or not the
calendar has it. -/
def stampOf? (cs : List Char) : Option Stamp := do
  let (day, rest) ← dayAhead cs
  if rest = [] then some (.day day)
  else
    let rest ← behindTimeMark rest
    (momentRest day rest).map .moment

/-- Whether a plain scalar is a day or a moment. A day alone must have two
digits for its month and two for its own number. -/
def spellsStamp (cs : List Char) : Bool :=
  match stampOf? cs with
  | some (.day _) => cs.length = 10
  | some (.moment _) => true
  | none => false

/-- The day or moment that a text spells. A line feed at the end does not
count. -/
def readStamp (cs : List Char) : Except Abort Stamp :=
  let trimmed := if cs.getLast? = some '\n' then cs.dropLast else cs
  match stampOf? trimmed with
  | none => .error .noMoment
  | some (.day d) => (d.checked.map .day).mapError .calendar
  | some (.moment m) => (m.checked.map .moment).mapError .calendar

end ThreeBlock.Yaml
