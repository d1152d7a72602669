-- The text of a YAML file, as far as it can be read. The first two pieces of
-- a file are read at once, the others when the reading gets there. A piece
-- with a character that may not occur, or the break of a file that breaks off,
-- is a wall in front of which the text ends.
import ThreeBlock.Yaml.Cursor
namespace ThreeBlock.Yaml

/-- A text that may end at a wall. -/
structure Source where
  text : List Char
  wall : Option Error := none
  deriving DecidableEq, Repr

namespace Source

/-- The text of some pieces, up to one with a character that may not occur. -/
def ofPieces : List (List Char) → Option Error → Source
  | [], wall => ⟨[], wall⟩
  | p :: ps, wall =>
    match p.find? fun c => !isAcceptable c with
    | some c => ⟨[], some (.unprintable c)⟩
    | none =>
      let rest := ofPieces ps wall
      ⟨p ++ rest.text, rest.wall⟩

/-- The text of a file in pieces that may break off behind them. -/
def ofFile : List (List Char) → (broken : Bool) → Source
  | [], false => ⟨[], none⟩
  | [], true | [_], true => ⟨[], some .broken⟩
  | [p], false => ofPieces [p] none
  | p :: q :: ps, broken => ofPieces ((p ++ q) :: ps) (if broken then some .broken else none)

end Source

end ThreeBlock.Yaml
