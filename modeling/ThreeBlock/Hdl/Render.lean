-- Writing a machine: from its states and transitions to the text, with the
-- log of the writing.
import ThreeBlock.Hdl.Text
import ThreeBlock.Trace
namespace ThreeBlock.Hdl

def render (flavor : Flavor) (withMap : Bool) (states : StateList) (ts : TransitionSet) :
    Except Abort String :=
  (Document.ofMachine flavor withMap states ts).map Document.text

def rendered (flavor : Flavor) (states : StateList) (ts : TransitionSet) (code : String) :
    Event :=
  ⟨.debug, "generator.renderer", "render_completed",
    [("flavor", .text flavor.text), ("states", .int states.size),
      ("transitions", .int ts.size), ("lines", .int (code.toList.count '\n'))]⟩

def renderLogged (flavor : Flavor) (withMap : Bool) (states : StateList)
    (ts : TransitionSet) : Logged (Except Abort String) := do
  let x := render flavor withMap states ts
  (x.toOption.map (rendered flavor states ts)).forM Logged.tell
  return x

def renderDefinition (withMap : Bool) (d : Definition) : Except Abort String :=
  render d.flavor withMap d.states d.transitions

end ThreeBlock.Hdl
