-- The value of a scalar with a tag.
import ThreeBlock.Value
import ThreeBlock.Yaml.Binary
import ThreeBlock.Yaml.Error
import ThreeBlock.Yaml.Number
namespace ThreeBlock.Yaml

def orAborted {α : Type} (make : α → Value) (r : Except Abort α) : Except Error Value :=
  (r.map make).mapError .aborted

def readTruth (text : Text.Points) : Except Abort Bool :=
  let word := Text.lowerPoints text
  if trueWords.any (isWord · word) then .ok true
  else if falseWords.any (isWord · word) then .ok false
  else .error (.noTruth (Text.quotedPoints word))

def Stamp.value : Stamp → Value
  | .day d => .day d
  | .moment m => .moment m

def scalarValue (tag : Tag) (text : Text.Points) : Except Error Value :=
  match tag with
  | .null => .ok .null
  | .bool => orAborted .bool (readTruth text)
  | .int => orAborted .int (wholeNumber text)
  | .float => orAborted .float (number text)
  | .stamp => orAborted Stamp.value (readStamp (Text.charsOf text))
  | .binary =>
    match bytesOf? text with
    | some bs => .ok (.bytes bs)
    | none => .error (.badScalar (Text.quotedPoints text))
  | .text => .ok (Value.ofPoints text)
  | .merge => .error (.unknownTag (standardTag ++ "merge"))
  | .default => .error (.unknownTag (standardTag ++ "value"))
  | .list | .pairs | .set | .map => .error .misfit
  | .other name => .error (.unknownTag name)

end ThreeBlock.Yaml
