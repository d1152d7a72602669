-- Lower-casing by the Unicode standard. Each character goes to its
-- lower-case form on its own, but for two: the dotted capital I goes to two
-- characters, and a capital sigma goes to the final form at the end of a
-- word and to the ordinary one elsewhere.
import ThreeBlock.Text.Blank
import ThreeBlock.Text.CaseTable
namespace ThreeBlock.Text

/-! ## One character -/

def lowerShift (n : Nat) : Int :=
  match lowerRuns.find? fun r => r.1 ≤ n && n ≤ r.2.1 && (n - r.1) % r.2.2.1 = 0 with
  | some r => r.2.2.2
  | none => 0

/-- The lower-case form of a character, whatever stands around it. -/
def lowerChar (c : Char) : List Char :=
  if c.toNat < 0x80 then [c.toLower]
  else if c = '\u0130' then ['i', '\u0307']
  else [Char.ofNat (Int.toNat (c.toNat + lowerShift c.toNat))]

/-! ## The end of a word -/

/-- Whether a character is passed over in the search for a neighbor with
case. -/
def isPassed (c : Char) : Bool := inRanges passedRanges c.toNat

def isCased (c : Char) : Bool := inRanges casedRanges c.toNat

/-- Whether the first character that is not passed over has case. -/
def meetsCased (cs : List Char) : Bool :=
  match cs.dropWhile isPassed with
  | [] => false
  | c :: _ => isCased c

/-! ## Text -/

/-- Lower-case text, when the characters of `before` stand in front of it,
nearest first. -/
def lowerAfter (before : List Char) : List Char → List Char
  | [] => []
  | c :: cs =>
    (if c = 'Σ' then [if meetsCased before && !meetsCased cs then 'ς' else 'σ']
      else lowerChar c) ++ lowerAfter (c :: before) cs

def lowercase (s : String) : String := String.ofList (lowerAfter [] s.toList)

end ThreeBlock.Text
