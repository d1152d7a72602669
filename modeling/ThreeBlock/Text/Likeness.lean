-- How alike two texts are. The longest run that both hold is taken first,
-- then the longest on its left and on its right, and so on; the characters
-- in those runs, set against all characters, are the likeness.
namespace ThreeBlock.Text

/-! ## Runs in common -/

def commonStart : List Char → List Char → Nat
  | a :: as, b :: bs => if a = b then commonStart as bs + 1 else 0
  | _, _ => 0

/-- A run of characters that two texts have in common. -/
structure CommonRun where
  /-- Where it starts in the first text. -/
  left : Nat
  right : Nat
  size : Nat
  deriving DecidableEq, Repr, Inhabited

/-- The longer of two runs; of runs of one length the first. -/
def CommonRun.longer (r s : CommonRun) : CommonRun := if r.size < s.size then s else r

/-- The longest run that two texts have in common; of several the one that
starts first in the first text, then first in the second. -/
def longestRun (as bs : List Char) : CommonRun :=
  let runs := (List.range as.length).flatMap fun i =>
    (List.range bs.length).map fun j => ⟨i, j, commonStart (as.drop i) (bs.drop j)⟩
  runs.foldl CommonRun.longer ⟨0, 0, 0⟩

def shared (as bs : List Char) : Nat :=
  match longestRun as bs with
  | ⟨left, right, size⟩ =>
    if 0 < size ∧ left < as.length then
      size + shared (as.take left) (bs.take right) +
        shared (as.drop (left + size)) (bs.drop (right + size))
    else 0
termination_by as.length
decreasing_by all_goals simp only [List.length_take, List.length_drop]; omega

/-! ## Likeness -/

/-- How alike two texts are: a part of a whole. -/
structure Likeness where
  part : Nat
  whole : Nat
  deriving DecidableEq, Repr

namespace Likeness

def between (s t : String) : Likeness :=
  ⟨shared s.toList t.toList, s.length + t.length⟩

/-- Whether two texts are close: three in five of their characters are
shared. -/
def isClose (l : Likeness) : Bool := 3 * l.whole ≤ 10 * l.part

/-- Whether two texts may be close by their lengths. -/
def mayBeClose (s t : String) : Bool :=
  3 * (s.length + t.length) ≤ 10 * min s.length t.length

def below (l m : Likeness) : Bool := l.part * m.whole < m.part * l.whole

end Likeness

/-- The texts closest to a word, at most `count` of them, the closest first;
of equally close texts the later in the order of characters. -/
def closest (count : Nat) (word : String) (texts : List String) : List String :=
  let near := texts.filter (Likeness.mayBeClose word)
  let rated := (near.map fun t => (Likeness.between t word, t)).filter fun r => r.1.isClose
  let before (r s : Likeness × String) : Bool :=
    s.1.below r.1 || (!r.1.below s.1 && decide (s.2 ≤ r.2))
  ((rated.mergeSort before).take count).map fun r => r.2

end ThreeBlock.Text
