-- The text of a machine: a state type, a record of flags, and three blocks.
-- The first block sets the flags of the current state, the second picks the
-- next state by them, and the third holds the register. The flavors differ
-- in comments alone.
import ThreeBlock.Hdl.Document
namespace ThreeBlock.Hdl

/-! ## Comments -/

namespace Comment

def noTransitions : String := "            // No transitions defined for this state"

def aboveRegisters : Flavor → List String
  | .cyclic => []
  | .explicit => ["// State registers"]

def behindFlags : Flavor → String
  | .cyclic => " // Transition condition flags"
  | .explicit => ""

def aboveNextState : Flavor → String
  | .cyclic => "// State transition logic (combinational)"
  | .explicit => "// State transition logic"

def aboveRegister : Flavor → String
  | .cyclic => "// State register (sequential logic)"
  | .explicit => "// State register"

end Comment

/-! ## Parts -/

/-- The numbered table of the states, with an empty line below. -/
def stateMapLines : List String → List String
  | [] => []
  | entries => "// State mapping" :: entries.map (fun e => "// " ++ e) ++ [""]

/-- The entries of the state type: a comma behind each but the last. -/
def enumLines : List String → List String
  | [] => []
  | [s] => ["    " ++ s]
  | s :: ss => ("    " ++ s ++ ",") :: enumLines ss

def stateTypeLines (states : List String) : List String :=
  ["// State encoding definition", "typedef enum \x7b"] ++ enumLines states ++
    ["\x7d fsm_state;", ""]

def flagTypeLines (flags : List String) : List String :=
  ["// Packed struct definition", "typedef struct packed \x7b"] ++
    flags.map (fun f => "    logic " ++ f ++ ";") ++ ["\x7d fsm_transition_flags;", ""]

def declarationLines (flavor : Flavor) : List String :=
  Comment.aboveRegisters flavor ++
    ["fsm_state cur_state, next_state;",
      "fsm_transition_flags trans_flags;" ++ Comment.behindFlags flavor, ""]

/-- An arm: its body between the opening line and the closing one, or the
comment when the body is empty. -/
def armLines (state : String) (body : List String) : List String :=
  ("        " ++ state ++ ": begin") ::
    (if body = [] then [Comment.noTransitions] else body) ++ ["        end"]

def conditionLine (b : Branch) : String := "            trans_flags." ++ b.flag ++ " = ...;"

def clearFlags : String := "trans_flags = '\x7bdefault:'0\x7d;"

def conditionBlock (arms : List Arm) : List String :=
  ["// State transition condition generation",
    "always_comb begin : transition_condition_gen",
    "    " ++ clearFlags, "",
    "    unique case (cur_state)"] ++
    arms.flatMap (fun a => armLines a.state (a.branches.map conditionLine)) ++
    ["        default: " ++ clearFlags, "    endcase", "end", ""]

def branchLines (test : String) (b : Branch) : List String :=
  ["            " ++ test ++ " (trans_flags." ++ b.flag ++ ")",
    "                next_state = " ++ b.target ++ ";"]

/-- A chain of branches, each tried when those above it fail. -/
def chainLines : List Branch → List String
  | [] => []
  | b :: bs => branchLines "if" b ++ bs.flatMap (branchLines "else if")

def nextStateBlock (flavor : Flavor) (arms : List Arm) (reset : String) : List String :=
  [Comment.aboveNextState flavor,
    "always_comb begin : state_transition",
    "    next_state = cur_state;", "",
    "    unique case (cur_state)"] ++
    arms.flatMap (fun a => armLines a.state (chainLines a.branches)) ++
    ["        default: next_state = " ++ reset ++ ";", "    endcase", "end", ""]

def registerBlock (flavor : Flavor) (reset : String) : List String :=
  [Comment.aboveRegister flavor,
    "always_ff @(posedge clk or negedge rst_n) begin : state_register",
    "    if (!rst_n) begin",
    "        cur_state <= " ++ reset ++ "; // Reset initialization",
    "    end else begin",
    "        cur_state <= next_state; // State update",
    "    end",
    "end"]

/-! ## The whole text -/

def bodyLines (d : Document) : List String :=
  stateTypeLines d.states ++ flagTypeLines d.flags ++ declarationLines d.flavor ++
    conditionBlock d.arms ++ nextStateBlock d.flavor d.arms d.reset ++
    registerBlock d.flavor d.reset

/-- The lines of a document. Only the explicit flavor shows the table of
states. -/
def Document.lines (d : Document) : List String :=
  match d.flavor with
  | .cyclic => bodyLines d
  | .explicit => stateMapLines d.stateMap ++ bodyLines d

/-- Lines as one text, with a line feed behind each. -/
def textOfLines (ls : List String) : String := String.join (ls.map fun l => l ++ "\n")

/-- The text of a document. -/
def Document.text (d : Document) : String := textOfLines d.lines

end ThreeBlock.Hdl
