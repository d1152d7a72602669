-- Readers of documents. A reader is handed the text of a file in pieces, which
-- may break off. It gives a document, or says what is wrong with the text, or
-- ends the run; of a text that breaks off it may tell just that.
import ThreeBlock.Yaml.Reading
namespace ThreeBlock.Yaml

/-- What a reader makes of a text. Only a text that breaks off can be torn. -/
inductive Reading : (broken : Bool) → Type where
  | content {broken : Bool} (c : Content) : Reading broken
  | malformed {broken : Bool} (message : String) : Reading broken
  | aborted {broken : Bool} (a : Abort) : Reading broken
  | torn : Reading true

abbrev Reader := List (List Char) → (broken : Bool) → Reading broken

def reader (limits : Limits) : Reader := fun pieces broken =>
  match read limits (.ofFile pieces broken), broken with
  | .ok c, _ => .content c
  | .error (.aborted a), _ => .aborted a
  | .error .broken, true => .torn
  | .error e, _ => .malformed e.message

end ThreeBlock.Yaml
