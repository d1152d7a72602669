-- Text cut at a separator. The pieces joined with the separator give the
-- text back; the segments are the pieces, trimmed, the blank ones dropped.
import ThreeBlock.Text.Blank
namespace ThreeBlock.Text

/-! ## Cutting -/

def ontoPiece {α : Type} (c : α) : List (List α) → List (List α)
  | [] => [[c]]
  | p :: ps => (c :: p) :: ps

def cut {α : Type} [DecidableEq α] (sep : α) : List α → List (List α)
  | [] => [[]]
  | c :: cs => if c = sep then [] :: cut sep cs else ontoPiece c (cut sep cs)

/-- The pieces between the occurrences of a separator of any length, found
from the left without overlap. The number says how many characters of an
occurrence are still to be passed over. -/
def cutAtText (sep : List Char) : Nat → List Char → List (List Char)
  | _, [] => [[]]
  | skip + 1, _ :: cs => cutAtText sep skip cs
  | 0, c :: cs =>
    if sep.isPrefixOf (c :: cs) then [] :: cutAtText sep (sep.length - 1) cs
    else ontoPiece c (cutAtText sep 0 cs)

theorem cut_ne_nil {α : Type} [DecidableEq α] (sep : α) (cs : List α) : cut sep cs ≠ [] := by
  cases cs with
  | nil => simp [cut]
  | cons c cs =>
    rw [cut]
    split
    · simp
    · cases cut sep cs <;> simp [ontoPiece]

/-- Cutting at a separator of one character is cutting at the character. -/
theorem cutAtText_singleton (sep : Char) (cs : List Char) :
    cutAtText [sep] 0 cs = cut sep cs := by
  induction cs with
  | nil => rfl
  | cons c cs ih =>
    simp only [cutAtText, cut, List.isPrefixOf, ih, List.length_singleton, Nat.sub_self,
      Bool.and_true, beq_iff_eq, eq_comm (a := sep)]

/-! ## Segments -/

def inkedPieces (pieces : List (List Char)) : List (List Char) :=
  (pieces.map trim).filter (· ≠ [])

def segments (raw : String) : List String :=
  (inkedPieces (cut ';' raw.toList)).map String.ofList

/-- The trimmed, inked pieces of a text between occurrences of any
separator. Empty text has none, whatever the separator; other text cannot
be cut at an empty one. -/
def segmentsAt? (sep raw : String) : Option (List String) :=
  if raw.isEmpty then some []
  else if sep.isEmpty then none
  else some ((inkedPieces (cutAtText sep.toList 0 raw.toList)).map String.ofList)

end ThreeBlock.Text
