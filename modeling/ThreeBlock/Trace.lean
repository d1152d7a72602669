-- The log of a run. A computation tells the log of its events on the way to
-- its value. An event is written at once, in the context of the moment, or
-- not at all; which of the two is up to the threshold of the log.
import ThreeBlock.Text.Lowercase
import ThreeBlock.Value
namespace ThreeBlock

/-! ## Severity -/

/-- How severe an event is. -/
inductive Level where
  | debug
  | info
  | warning
  | error
  | critical
  deriving DecidableEq, Repr, Inhabited

namespace Level

def rank : Level → Nat
  | .debug => 0
  | .info => 1
  | .warning => 2
  | .error => 3
  | .critical => 4

def text : Level → String
  | .debug => "debug"
  | .info => "info"
  | .warning => "warning"
  | .error => "error"
  | .critical => "critical"

/-- The threshold that a name in lower case stands for. Any other name means
`info`. -/
def ofLowerName (name : String) : Level :=
  if name = "debug" then .debug
  else if name = "warn" then .warning
  else if name = "warning" then .warning
  else if name = "error" then .error
  else .info

/-- The threshold that a name stands for, in any case. -/
def ofName (name : String) : Level := ofLowerName (Text.lowercase name)

def passes (threshold level : Level) : Bool := threshold.rank ≤ level.rank

end Level

/-! ## Events -/

/-- Something worth telling about a run. -/
structure Event where
  level : Level
  /-- The part of the program that tells it; empty for none. -/
  logger : String
  name : String
  fields : List (String × Value) := []

/-- What all events of a request have in common. -/
structure Context where
  /-- The name of the request; none before the first one. -/
  request : Option Value := none
  /-- How the request generates; void for none. -/
  mode : Value := .text ""
  deriving Inhabited

/-- The context of a new request. Without a name of its own it gets the one
that was made for it. -/
def Context.enter (made : String) (name mode : Value) : Context :=
  ⟨some (if name.isVoid then .text made else name), mode⟩

/-- The context of a new request without a name of its own. -/
def Context.fresh (made mode : String) : Context := enter made (.text "") (.text mode)

/-! ## Lines -/

/-- A line of a log: the fields of an event as it is written. -/
abbrev Line := List (String × Value)

/-- Fields with one of them set: in its place if it is there, else at the
end. -/
def setField (key : String) (v : Value) : List (String × Value) → List (String × Value)
  | [] => [(key, v)]
  | e :: es => if e.1 = key then (key, v) :: es else e :: setField key v es

/-- The fields that ask for particulars of an error or of the calls in
progress. There are none, and such a field is not written itself. -/
def askingFields : List String := ["exc_info", "stack_info"]

/-- An event as it is written in a context. The event's own fields may replace
the logger, and give way to its name, its level and the context. -/
def Event.written (c : Context) (e : Event) : Line :=
  let base := if e.logger = "" then [] else [("logger_name", .text e.logger)]
  let told := e.fields.filter fun f => !askingFields.contains f.1
  let own := told.foldl (fun fs f => setField f.1 f.2 fs) base
  let named := setField "level" (.text e.level.text) (setField "event" (.text e.name) own)
  let requested :=
    match c.request with
    | none => named
    | some r => setField "request_id" r named
  if c.mode.isVoid then requested else setField "mode" c.mode requested

/-! ## The log -/

/-- A log under way: the least severity that it writes, the context of what it
is told next, all that it was told, and the lines that it wrote. -/
structure Log where
  threshold : Level := .debug
  context : Context := {}
  told : List (Context × Event) := []
  lines : List Line := []
  deriving Inhabited

namespace Log

def tell (log : Log) (e : Event) : Log :=
  let told := log.told ++ [(log.context, e)]
  if log.threshold.passes e.level then
    { log with told, lines := log.lines ++ [e.written log.context] }
  else { log with told }

def enter (log : Log) (context : Context) : Log := { log with context }

def configure (log : Log) (threshold : Level) : Log := { log with threshold }

end Log

/-! ## Computations with a log -/

abbrev Logged := StateM Log

namespace Logged

def tell (e : Event) : Logged Unit := modify fun log => log.tell e

def enter (c : Context) : Logged Unit := modify fun log => log.enter c

/-- Write what is at least as severe as a threshold from now on. -/
def configure (threshold : Level) : Logged Unit := modify fun log => log.configure threshold

def value {α : Type} (x : Logged α) : α := (x.run {}).1

def events {α : Type} (x : Logged α) : List Event := (x.run {}).2.told.map Prod.snd

end Logged

end ThreeBlock
