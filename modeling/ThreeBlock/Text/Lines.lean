-- Lines of text. Ten characters end a line, and a carriage return with a
-- line feed right after it ends one line, not two. A break at the very
-- end of the text starts no further line.
namespace ThreeBlock.Text

/-! ## Line breaks -/

def lineBreaks : List Nat :=
  [0x0A, 0x0B, 0x0C, 0x0D, 0x1C, 0x1D, 0x1E, 0x85, 0x2028, 0x2029]

def isLineBreak (c : Char) : Bool := lineBreaks.contains c.toNat

/-! ## Lines -/

/-- Put a character in front of the first line, which it opens when there
is none yet. -/
def ontoFirst (c : Char) : List (List Char) → List (List Char)
  | [] => [[c]]
  | l :: ls => (c :: l) :: ls

def lines : List Char → List (List Char)
  | [] => []
  | '\r' :: '\n' :: cs => [] :: lines cs
  | c :: cs => if isLineBreak c then [] :: lines cs else ontoFirst c (lines cs)

theorem lines_nil : lines [] = [] := rfl

/-! ## One kind of break -/

/-- The text with a line feed in place of each carriage return and of each
pair of carriage return and line feed. -/
def unifyBreaks : List Char → List Char
  | [] => []
  | '\r' :: '\n' :: cs => '\n' :: unifyBreaks cs
  | '\r' :: cs => '\n' :: unifyBreaks cs
  | c :: cs => c :: unifyBreaks cs

end ThreeBlock.Text
