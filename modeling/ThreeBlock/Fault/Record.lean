-- Faults whose fields may hold any values, as they come from outside. Such a
-- record is worded like a fault of its kind; only what should be names, but
-- is not, cannot be worded.
import ThreeBlock.Fault
import ThreeBlock.Settings.Basic
namespace ThreeBlock

/-! ## Faults -/

/-- A fault with any values in its fields. -/
structure FaultRecord where
  model : Fault
  fields : List (String × Value)

namespace FaultRecord

def ofFault (f : Fault) : FaultRecord := ⟨f, f.fields⟩

/-- The record of a kind, with some of its fields given. No other fields may
be given. -/
def ofGiven? (kind : String) (given : List (String × Value)) : Option FaultRecord := do
  let blank ← Fault.blanks.find? fun f => f.kind = kind
  if given.all fun g => blank.fields.any fun f => f.1 = g.1 then
    some ⟨blank, blank.fields.map fun f => (f.1, (given.lookup f.1).getD f.2)⟩
  else none

def value (r : FaultRecord) (name : String) : Value := (r.fields.lookup name).getD .null

def shown (r : FaultRecord) (name : String) : String := (r.value name).plain

def text? : Value → Option String
  | .text s => some s
  | _ => none

/-- The texts that a value consists of: the items of a tuple or list, the
keys of a map, the characters of a text. -/
def texts? : Value → Option (List String)
  | .tuple items | .list items => items.mapM text?
  | .map entries => (entries.map (·.1)).mapM text?
  | .text s => some (s.toList.map fun c => String.ofList [c])
  | _ => none

def joined? (r : FaultRecord) (name : String) : Option String :=
  (texts? (r.value name)).map Fault.joined

def lineStart (r : FaultRecord) : String :=
  if (r.value "line").isVoid then "" else Fault.onLine (r.shown "line")

def message? (r : FaultRecord) : Option String :=
  match r.model with
  | .insufficientStates _ | .noTransitions => some r.model.message
  | .invalidIdentifiers _ => (r.joined? "names").map Fault.invalidText
  | .malformedToken .. => some (r.lineStart ++ Fault.malformedText (r.shown "token"))
  | .positionOutOfRange .. => some (Fault.positionText (r.shown "token") (r.shown "state_count"))
  | .sourceMismatch .. =>
    some (Fault.mismatchText (r.shown "line") (r.shown "token") (r.shown "state"))
  | .targetOutOfRange .. =>
    some (Fault.targetText (r.shown "line") (r.shown "token") (r.shown "state_count"))
  | .stateNotFound .. => some (Fault.notFoundText (r.shown "line") (r.shown "name"))
  | .duplicateStates _ => (r.joined? "names").map Fault.duplicateText
  | .duplicateFlags _ => (r.joined? "flags").map Fault.duplicateFlagText

def display (r : FaultRecord) : String := Value.recordDisplay r.model.kind r.fields

theorem display_ofFault (f : Fault) : (ofFault f).display = f.display := rfl

theorem mapM_text? (names : List String) :
    names.mapM (text? ∘ Value.text) = some names := by
  induction names with
  | nil => rfl
  | cons n ns ih => simp [text?, ih]

theorem message?_ofFault (f : Fault) : (ofFault f).message? = some f.message := by
  cases f <;>
    simp [message?, ofFault, Fault.fields, Fault.message, shown, value, joined?, lineStart, texts?,
      mapM_text?, Value.textTuple, Value.plain, Value.display, Value.isVoid, List.lookup_cons]

end FaultRecord

/-! ## Errors of the settings -/

/-- An error of the settings with any values in its fields. -/
structure SettingsRecord where
  field : Value
  message : Value

namespace SettingsRecord

/-- The record of some fields; both must be given, and no others. -/
def ofGiven? (given : List (String × Value)) : Option SettingsRecord := do
  let field ← given.lookup "field"
  let message ← given.lookup "message"
  if given.all fun g => g.1 = "field" || g.1 = "message" then some ⟨field, message⟩ else none

def text (r : SettingsRecord) : String := SettingsError.told r.field.plain r.message.plain

def display (r : SettingsRecord) : String :=
  Value.recordDisplay "ConfigError" [("field", r.field), ("message", r.message)]

end SettingsRecord

end ThreeBlock
