-- The floating-point number nearest to a decimal. Of two that are equally
-- near, the one with the even mantissa is taken; beyond the greatest finite
-- number stands infinity. The search for it is exact arithmetic on whole
-- numbers.
import ThreeBlock.Decimal.Shortest
namespace ThreeBlock.Decimal

/-! ## Quotients -/

/-- The whole number nearest to `a / b`, the even one of two. -/
def nearestQuotient (a b : Nat) : Nat :=
  let q := a / b
  let twice := 2 * (a % b)
  if twice < b then q else if b < twice then q + 1 else q + q % 2

def scaledFloor (a b : Nat) (s : Int) : Nat := a * two (-s).toNat / (b * two s.toNat)

/-- The power of two that scales the mantissa of `a / b` to 53 bits, or the
least one there is. -/
def scaleOf (a b : Nat) : Int :=
  let s : Int := max (-1074) ((a.log2 : Int) - b.log2 - 53)
  if two 53 ≤ scaledFloor a b s then s + 1 else s

/-! ## Doubles -/

def infinityBits : Nat := 2047 * two 52

def ratioBits (a b : Nat) : Nat :=
  let s := scaleOf a b
  let mantissa := nearestQuotient (a * two (-s).toNat) (b * two s.toNat)
  min ((s + 1074).toNat * two 52 + mantissa) infinityBits

/-- The bits of the double nearest to `m * 10 ^ p`. A decimal far out of
reach is told by its digits alone. -/
def decimalBits (m : Nat) (p : Int) : Nat :=
  let digits : Int := (Text.numeral m).length
  if m = 0 || digits + p < -400 then 0
  else if 400 < digits + p then infinityBits
  else ratioBits (m * ten p.toNat) (ten (-p).toNat)

def nearest (m : Nat) (p : Int) : Float := Float.ofBits (decimalBits m p).toUInt64

/-- The floating-point number nearest to a whole number, unless that number
is too great for a finite one. -/
def nearestWhole? (n : Nat) : Option Float :=
  let bits := ratioBits n 1
  if bits < infinityBits then some (Float.ofBits bits.toUInt64) else none

/-! ## Numerals -/

def exponentValue : List Char → Int
  | '-' :: cs => -(Text.numeralValue cs : Int)
  | '+' :: cs => Text.numeralValue cs
  | cs => Text.numeralValue cs

/-- The number that a decimal spells: digits, perhaps a point and further
digits, and perhaps an exponent behind one more character. -/
def numeralNumber (cs : List Char) : Float :=
  let whole := cs.takeWhile Text.isDigit
  let behind := cs.drop whole.length
  let places := if behind.head? = some '.' then behind.tail.takeWhile Text.isDigit else []
  let rest := if behind.head? = some '.' then behind.tail.drop places.length else behind
  nearest (Text.numeralValue (whole ++ places)) (exponentValue rest.tail - places.length)

end ThreeBlock.Decimal
