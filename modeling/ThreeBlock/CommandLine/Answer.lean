-- What a command answers: a product that goes where the results go, a text
-- that is only shown, a fault of the input, or the word that it failed. An
-- answer does not depend on where it will go, nor on the form in which it
-- will be told.
import ThreeBlock.CommandLine.Invocation
import ThreeBlock.Generate
import ThreeBlock.Json
import ThreeBlock.Text.Lines
namespace ThreeBlock.CommandLine

/-! ## Products -/

/-- The result of a command. -/
structure Product where
  plain : String
  fields : List (String × Value)

def envelope (fields : List (String × Value)) : Value :=
  .map (fields.map fun f => (.text f.1, f.2))

def Product.text (json : Bool) (p : Product) : String :=
  if json then Json.page (envelope (("status", .text "success") :: p.fields)) else p.plain

def ofEdge (t : Transition) : Value :=
  envelope [("source", .text t.source), ("target", .text t.target)]

/-- The fields that tell of a machine, when `reset` is its first state. -/
def definitionFields (reset : String) (d : Definition) : List (String × Value) :=
  [("flavor", .text d.flavor.text), ("states", .texts d.states.names),
    ("reset_state", .text reset), ("transitions", .list (d.transitions.edges.map ofEdge))]

/-- The first state of a list; empty when there is none. -/
def firstState (states : StateList) : String := states.reset?.getD ""

def generationFields (g : Generation) : List (String × Value) :=
  definitionFields (firstState g.definition.states) g.definition ++
    [("flags", .texts g.definition.transitions.flags), ("warnings", .texts g.warnings)]

def ofGeneration (g : Generation) : Product :=
  ⟨g.code, generationFields g ++ [("code", .text g.code)]⟩

def ofStates (states : StateList) : Product :=
  ⟨String.intercalate "\n" states.mapping ++ "\n",
    [("states", .texts states.names), ("reset_state", .text (firstState states)),
      ("mapping", .text states.describe)]⟩

/-! ## Answers -/

/-- How a command ends. -/
inductive Verdict where
  | made (p : Product)
  | shown (text : String)
  | refused (f : Fault)
  | failed (message : String)

/-- What a command answers. -/
structure Answer where
  verdict : Verdict
  note : String := ""

namespace Verdict

def ofStop : Stop → Verdict
  | .fault f => .refused f
  | .abort a => .failed a.message

def ofGenerated : Except Stop Generation → Verdict
  | .ok g => .made (ofGeneration g)
  | .error s => ofStop s

def ofRead : Except Fault StateList → Verdict
  | .ok states => .made (ofStates states)
  | .error f => .refused f

end Verdict

def told (level : Level) (name : String) (fields : List (String × Value)) : Event :=
  ⟨level, "cli", name, fields⟩

def startedStrict (name : String) (settings : Settings) : Event :=
  told .info name [("strict", .bool settings.strict)]

def startedInline (source : Source) : Event :=
  told .info "inline_started" [("source", .text source.name)]

def mappingNote (x : Except Stop Generation) : String :=
  match x with
  | .ok g => "State mapping: " ++ g.definition.states.describe ++ "\n"
  | .error _ => ""

/-- The answer of a command that generates, when `made` is the name made for
its request. The first event still has the context before; the request enters
its own. -/
def generated (made : String) (settings : Settings) (first : Event) (withNote : Bool)
    (r : Request) : Logged Answer := do
  Logged.tell first
  let x ← r.perform made settings
  return { verdict := .ofGenerated x, note := if withNote then mappingNote x else "" }

def Call.answer (made : String) (settings : Settings) : Call → Logged Answer
  | .fast names =>
    generated made settings (startedStrict "fast_started" settings) false (.fast (some names))
  | .advanced names pairs showMapping =>
    generated made settings (startedStrict "advanced_started" settings) showMapping
      (.advanced (some names) (some pairs))
  | .inline source =>
    match source.text with
    | .error message => do
      Logged.tell (startedInline source)
      return { verdict := .failed message }
    | .ok text =>
      generated made settings (startedInline source) false
        (.inline (some (String.ofList (Text.unifyBreaks text))))
  | .states text => do
    return { verdict := .ofRead (← StateList.readLogged text) }
  | .config => return { verdict := .shown (Json.page settings.toValue) }

end ThreeBlock.CommandLine
