-- Blank characters and the trimming of text. A blank is one of the
-- twenty-nine spaces and controls below. Trimming drops blanks from both
-- ends and nothing else, so what it leaves starts and ends with ink.
namespace ThreeBlock.Text

/-! ## Blank characters -/

/-- The first and last code point of each run of blank characters. -/
def blankRanges : List (Nat × Nat) :=
  [(0x09, 0x0D), (0x1C, 0x20), (0x85, 0x85), (0xA0, 0xA0), (0x1680, 0x1680),
   (0x2000, 0x200A), (0x2028, 0x2029), (0x202F, 0x202F), (0x205F, 0x205F),
   (0x3000, 0x3000)]

def inRanges (ranges : List (Nat × Nat)) (n : Nat) : Bool :=
  ranges.any fun r => r.1 ≤ n && n ≤ r.2

/-- Whether a character counts as blank. -/
def isBlank (c : Char) : Bool := inRanges blankRanges c.toNat

/-! ## Trimming -/

def trimStart (cs : List Char) : List Char := cs.dropWhile isBlank

def trimEnd (cs : List Char) : List Char := (cs.reverse.dropWhile isBlank).reverse

def trim (cs : List Char) : List Char := trimEnd (trimStart cs)

def hasInk (cs : List Char) : Bool := cs.any fun c => !isBlank c

theorem trimStart_cons (c : Char) (cs : List Char) :
    trimStart (c :: cs) = if isBlank c then trimStart cs else c :: cs := by
  simp only [trimStart, List.dropWhile_cons]

theorem not_isBlank_of_trimStart {cs r : List Char} {c : Char} (h : trimStart cs = c :: r) :
    isBlank c = false := by
  induction cs with
  | nil => cases h
  | cons d ds ih =>
    rw [trimStart_cons] at h
    split at h
    · exact ih h
    · next hd =>
      cases h
      simpa using hd

end ThreeBlock.Text
