-- Text as code points. A text that is spelled with escapes may hold the
-- points from D800 to DFFF, which stand for no character; such a point is
-- shown as the escape that spells it, and has neither case nor ink.
import ThreeBlock.Text.Lowercase
import ThreeBlock.Text.Quoted
namespace ThreeBlock.Text

abbrev Points := List Nat

/-! ## Characters -/

def pointsOf (cs : List Char) : Points := cs.map Char.toNat

def hasCharacter (n : Nat) : Bool := decide n.isValidChar

/-- The characters of code points; NUL where there is none. -/
def charsOf (ps : Points) : List Char := ps.map Char.ofNat

/-- The characters of code points, if each has one. -/
def charsOf? (ps : Points) : Option (List Char) :=
  if ps.all hasCharacter then some (charsOf ps) else none

/-- The text of code points, if each has a character. -/
def textOf? (ps : Points) : Option String := (charsOf? ps).map String.ofList

/-! ## Showing -/

def quotedPoint (quote : Char) (n : Nat) : List Char :=
  if hasCharacter n then quotedChar quote (Char.ofNat n) else codeEscape n

def quotedPoints (ps : Points) : String :=
  let quote := quoteFor (charsOf ps)
  String.ofList (quote :: ps.flatMap (quotedPoint quote) ++ [quote])

def shownPoints (ps : Points) : String :=
  String.ofList (ps.flatMap fun n => if hasCharacter n then [Char.ofNat n] else codeEscape n)

/-! ## Case -/

/-- Code points in lower case. A point without a character parts words. -/
def lowerPoints (ps : Points) : Points :=
  (ps.splitBy fun a b => hasCharacter a && hasCharacter b).flatMap fun run =>
    match charsOf? run with
    | some cs => pointsOf (lowerAfter [] cs)
    | none => run

end ThreeBlock.Text
