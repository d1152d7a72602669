-- What the text of a machine means. Comments and blank lines say nothing;
-- the lines that are left spell a circuit: the state type, the record of
-- flags, and three blocks. The reading is strict, so a line out of place
-- makes the text mean nothing. A circuit runs from clock cycle to clock cycle.
import Mathlib.Data.List.Basic
import ThreeBlock.Hdl.Render
import ThreeBlock.Identifier
import ThreeBlock.Text.Segments
namespace ThreeBlock.Hdl

/-! ## Lines of code -/

/-- A line up to its comment. -/
def beforeComment : List Char → List Char
  | [] => []
  | c :: cs => if c = '/' ∧ cs.head? = some '/' then [] else c :: beforeComment cs

/-- A line without its comment, and without the blanks at its end. -/
def bareLine (line : List Char) : String := String.ofList (Text.trimEnd (beforeComment line))

/-- The lines of a text that hold code. -/
def codeLines (code : String) : List String :=
  ((Text.cut '\n' code.toList).map bareLine).filter (· ≠ "")

/-! ## Circuits -/

/-- A test in an arm of the second block. -/
structure Test where
  /-- Whether it is an alternative to the test above it. -/
  alternative : Bool
  /-- The flag that is tested. -/
  flag : String
  /-- The next state when the test holds. -/
  target : String
  deriving DecidableEq, Repr

/-- What the text of a machine spells. -/
structure Circuit where
  /-- The entries of the state type. -/
  entries : List String
  /-- The members of the flag record. -/
  members : List String
  /-- The arms of the first block, each with the flags that it sets. -/
  setters : List (String × List String)
  /-- The arms of the second block, each with its tests. -/
  choosers : List (String × List Test)
  /-- The next state of a state that has no arm. -/
  fallback : String
  /-- The state loaded on reset. -/
  reset : String
  deriving DecidableEq, Repr

/-! ## Reading a line -/

/-- The identifier in a line between two fixed texts. -/
def between (before after line : String) : Option String := do
  let rest ← line.toList.dropPrefix? before.toList
  let name ← rest.dropSuffix? after.toList
  if spellsIdentifier name then some (String.ofList name) else none

/-- The lines in front of a closing line, and the lines behind it. -/
def upTo (close : String) : List String → Option (List String × List String)
  | [] => none
  | l :: ls => if l = close then some ([], ls) else (upTo close ls).map fun p => (l :: p.1, p.2)

/-- The entries of the state type: a comma behind each but the last. -/
def readEntries : List String → Option (List String)
  | [] => none
  | [l] => (between "    " "" l).map fun n => [n]
  | l :: ls => do
    let name ← between "    " "," l
    return name :: (← readEntries ls)

/-- The condition in a line that tests it, and whether it is an alternative. -/
def readTest (line : String) : Option (Bool × String) :=
  ((between "            if (trans_flags." ")" line).map fun f => (false, f)) <|>
    (between "            else if (trans_flags." ")" line).map fun f => (true, f)

/-- The tests of an arm, each a line with the condition and one with the next
state. -/
def readTests : List String → Option (List Test)
  | [] => some []
  | [_] => none
  | l :: l' :: ls => do
    let (alternative, flag) ← readTest l
    let target ← between "                next_state = " ";" l'
    return ⟨alternative, flag, target⟩ :: (← readTests ls)

/-- Whether no alternative stands where there is nothing to be an alternative
to. -/
def startsChain : List Test → Bool
  | [] => true
  | t :: _ => !t.alternative

/-! ## Reading a block -/

/-- The arms of a case block with the lines of their bodies. A name that opens
an arm is an entry of the state type. The first argument is the open arm. -/
def readArms (entries : List String) :
    Option (String × List String) → List String → Option (List (String × List String))
  | none, [] => some []
  | some _, [] => none
  | none, l :: ls => do
    let name ← (between "        " ": begin" l).filter (entries.contains ·)
    readArms entries (some (name, [])) ls
  | some (name, body), l :: ls =>
    if l = "        end" then (readArms entries none ls).map fun arms => (name, body) :: arms
    else readArms entries (some (name, body ++ [l])) ls

/-- A case block that begins with some lines: its arms, the line that stands for
every other state, and the lines behind the block. -/
def readCases (entries opening ls : List String) :
    Option (List (String × List String) × String × List String) := do
  let ls ← ls.dropPrefix? opening
  let (body, ls) ← upTo "    endcase" ls
  let other ← body.getLast?
  let arms ← readArms entries none body.dropLast
  let ls ← ls.dropPrefix? ["end"]
  return (arms, other, ls)

/-- The state type. -/
def readStateType (ls : List String) : Option (List String × List String) := do
  let ls ← ls.dropPrefix? ["typedef enum \x7b"]
  let (body, ls) ← upTo "\x7d fsm_state;" ls
  return (← readEntries body, ls)

/-- The record of flags. -/
def readFlagType (ls : List String) : Option (List String × List String) := do
  let ls ← ls.dropPrefix? ["typedef struct packed \x7b"]
  let (body, ls) ← upTo "\x7d fsm_transition_flags;" ls
  return (← body.mapM (between "    logic " ";"), ls)

/-- The block that sets the flags. All of them are zero before the arm of the
current state sets its own, and in a state without an arm. -/
def readSetters (entries ls : List String) :
    Option (List (String × List String) × List String) := do
  let (arms, other, ls) ← readCases entries
    ["always_comb begin : transition_condition_gen", "    " ++ clearFlags,
      "    unique case (cur_state)"] ls
  let setters ← arms.mapM fun a =>
    (a.2.mapM (between "            trans_flags." " = ...;")).map fun flags => (a.1, flags)
  if other = "        default: " ++ clearFlags then some (setters, ls) else none

/-- The block that picks the next state, which is the current one unless an arm
says otherwise. -/
def readChoosers (entries ls : List String) :
    Option (List (String × List Test) × String × List String) := do
  let (arms, other, ls) ← readCases entries
    ["always_comb begin : state_transition", "    next_state = cur_state;",
      "    unique case (cur_state)"] ls
  let choosers ← arms.mapM fun a =>
    ((readTests a.2).filter startsChain).map fun tests => (a.1, tests)
  let fallback ← between "        default: next_state = " ";" other
  return (choosers, fallback, ls)

/-- The block that holds the register, with nothing behind it. -/
def readRegister (ls : List String) : Option String := do
  let ls ← ls.dropPrefix?
    ["always_ff @(posedge clk or negedge rst_n) begin : state_register",
      "    if (!rst_n) begin"]
  let reset ← ls.head? >>= between "        cur_state <= " ";"
  if ls.tail = ["    end else begin", "        cur_state <= next_state;", "    end", "end"] then
    some reset
  else none

/-- The circuit that a text spells. -/
def Circuit.read (code : String) : Option Circuit := do
  let (entries, ls) ← readStateType (codeLines code)
  let (members, ls) ← readFlagType ls
  let ls ← ls.dropPrefix?
    ["fsm_state cur_state, next_state;", "fsm_transition_flags trans_flags;"]
  let (setters, ls) ← readSetters entries ls
  let (choosers, fallback, ls) ← readChoosers entries ls
  let reset ← readRegister ls
  return { entries, members, setters, choosers, fallback, reset }

/-! ## Running a circuit -/

/-- What one clock cycle brings. -/
structure Cycle where
  /-- Whether `rst_n` is high. -/
  running : Bool
  /-- The value of the condition of each flag. -/
  value : String → Bool

namespace Circuit

/-- The flags in a state: those that its arm sets have their values, all others
are zero. -/
def flagsIn (c : Circuit) (state : String) (value : String → Bool) (flag : String) : Bool :=
  match c.setters.lookup state with
  | some flags => flags.contains flag && value flag
  | none => false

/-- The next state after some tests, when `next` is the next state so far. An
alternative is passed over when a test above it in its chain was met. -/
def afterTests (on : String → Bool) : Bool → String → List Test → String
  | _, next, [] => next
  | met, next, t :: ts =>
    if t.alternative && met then afterTests on true next ts
    else if on t.flag then afterTests on true t.target ts
    else afterTests on false next ts

/-- The next state. -/
def next (c : Circuit) (state : String) (on : String → Bool) : String :=
  match c.choosers.lookup state with
  | some tests => afterTests on false state tests
  | none => c.fallback

/-- The state after one clock cycle. -/
def step (c : Circuit) (state : String) (y : Cycle) : String :=
  if y.running then c.next state (c.flagsIn state y.value) else c.reset

/-- The state after some clock cycles, from reset on. -/
def run (c : Circuit) (ys : List Cycle) : String := ys.foldl c.step c.reset

end Circuit

end ThreeBlock.Hdl
