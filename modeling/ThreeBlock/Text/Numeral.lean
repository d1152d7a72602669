-- Decimal numerals. A numeral is a run of the digits 0 to 9, leading zeros
-- allowed. Reading stops at 4300 digits: a longer numeral has no value here.
-- Printing writes no leading zero, and reading what was printed gives the
-- number back.
namespace ThreeBlock.Text

/-! ## Digits -/

/-- Whether a character is one of the digits 0 to 9. -/
def isDigit (c : Char) : Bool := '0' ≤ c && c ≤ '9'

def digitValue (c : Char) : Nat := c.toNat - '0'.toNat

/-- Whether text is a numeral: digits only, and at least one. -/
def isNumeral (cs : List Char) : Bool := !cs.isEmpty && cs.all isDigit

/-! ## Reading -/

/-- The most digits that a numeral to be read may have. -/
def numeralLimit : Nat := 4300

/-- The number that digits stand for, on top of the digits before them. -/
def numeralValueFrom (n : Nat) (cs : List Char) : Nat :=
  cs.foldl (fun n c => 10 * n + digitValue c) n

def numeralValue (cs : List Char) : Nat := numeralValueFrom 0 cs

/-! ## Printing -/

def numeral (n : Nat) : List Char := Nat.toDigits 10 n

def natText (n : Nat) : String := String.ofList (numeral n)

/-- A whole number as text, with a minus sign when it is negative. -/
def intText : Int → String
  | .ofNat n => natText n
  | .negSucc n => "-" ++ natText (n + 1)

end ThreeBlock.Text
