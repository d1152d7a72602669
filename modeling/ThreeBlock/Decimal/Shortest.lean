-- The shortest decimal text of a floating-point number. Of all decimals
-- that round to the number, one with the fewest digits is taken, and of
-- those the nearest to the number. Everything is exact arithmetic on whole
-- numbers.
import ThreeBlock.Text.Numeral
namespace ThreeBlock.Decimal

/-! ## Powers -/

def two (n : Nat) : Nat := Nat.pow 2 n

def ten (n : Nat) : Nat := Nat.pow 10 n

/-! ## Doubles -/

/-- A finite double without its sign: `mantissa * 2 ^ exponent`. -/
structure Double where
  mantissa : Nat
  exponent : Int
  closeBelow : Bool

def Double.ofBits (bits : Nat) : Double :=
  let fraction : Nat := bits % two 52
  let power : Nat := bits / two 52 % two 11
  if power = 0 then ⟨fraction, -1074, false⟩
  else ⟨two 52 + fraction, (power : Int) - 1075, fraction = 0 && 1 < power⟩

/-! ## Comparing binary and decimal scales -/

def isBelow (a : Nat) (s : Int) (k : Nat) (p : Int) : Bool :=
  a * two s.toNat * ten (-p).toNat < k * ten p.toNat * two (-s).toNat

def isLevel (a : Nat) (s : Int) (k : Nat) (p : Int) : Bool :=
  a * two s.toNat * ten (-p).toNat = k * ten p.toNat * two (-s).toNat

/-- The greatest `k` with `k * 10 ^ p` at most `a * 2 ^ s`. -/
def floorOn (a : Nat) (s p : Int) : Nat :=
  a * two s.toNat * ten (-p).toNat / (ten p.toNat * two (-s).toNat)

/-! ## Decimals that round to a double -/

/-- Whether `k * 10 ^ p` rounds to the double. The two halfway points count
when the mantissa is even. -/
def Double.hits (d : Double) (k : Nat) (p : Int) : Bool :=
  let s := d.exponent - 2
  let low := if d.closeBelow then 4 * d.mantissa - 1 else 4 * d.mantissa - 2
  let high := 4 * d.mantissa + 2
  let even := d.mantissa % 2 = 0
  (isBelow low s k p || (even && isLevel low s k p)) &&
    (!isBelow high s k p && (even || !isLevel high s k p))

/-- The better of the two neighbors of the double among the multiples of
`10 ^ p`, if one of them rounds to it. -/
def Double.neighborOn (d : Double) (p : Int) : Option Nat :=
  let k := floorOn d.mantissa d.exponent p
  match d.hits k p, d.hits (k + 1) p with
  | false, false => none
  | true, false => some k
  | false, true => some (k + 1)
  | true, true =>
    if isBelow (2 * d.mantissa) d.exponent (2 * k + 1) p then some k
    else if isLevel (2 * d.mantissa) d.exponent (2 * k + 1) p then
      some (if k % 2 = 0 then k else k + 1)
    else some (k + 1)

/-- The first hit on the grids below `10 ^ top`, from the coarsest on. The
number counts the grids that are left. -/
def Double.search (d : Double) (top : Int) : Nat → Nat × Int
  | 0 => (floorOn d.mantissa d.exponent (top - 1), top - 1)
  | left + 1 =>
    match d.neighborOn (top - 1) with
    | some k => (k, top - 1)
    | none => d.search (top - 1) left

def Double.top (d : Double) : Int :=
  (Text.numeral (floorOn d.mantissa d.exponent (-350))).length - 350

/-- The digits of the shortest decimal and the power of ten that scales
them. -/
def Double.shortest (d : Double) : Nat × Int := d.search d.top 17

/-! ## Text -/

def dropTrailingZeros (cs : List Char) : List Char :=
  (cs.reverse.dropWhile (· = '0')).reverse

/-- An exponent: its sign, and two digits at least. -/
def exponentText (e : Int) : List Char :=
  let ds := Text.numeral e.natAbs
  'e' :: (if e < 0 then '-' else '+') :: (if ds.length < 2 then '0' :: ds else ds)

/-- Digits with a point in front of the digit that `point` counts to. From
`10 ^ 16` on and below `10 ^ -4` an exponent stands instead. -/
def layout (ds : List Char) (point : Int) : List Char :=
  if 16 < point || point < -3 then
    match ds with
    | [] => []
    | [d] => d :: exponentText (point - 1)
    | d :: ds => d :: '.' :: ds ++ exponentText (point - 1)
  else if point ≤ 0 then
    '0' :: '.' :: List.replicate (-point).toNat '0' ++ ds
  else if ds.length ≤ point.toNat then
    ds ++ List.replicate (point.toNat - ds.length) '0' ++ ['.', '0']
  else ds.take point.toNat ++ '.' :: ds.drop point.toNat

def Double.text (d : Double) : List Char :=
  if d.mantissa = 0 then ['0', '.', '0']
  else
    let r := d.shortest
    let ds := Text.numeral r.1
    layout (dropTrailingZeros ds) (ds.length + r.2)

/-- The shortest text of a floating-point number that reads back as the
number. -/
def floatText (x : Float) : String :=
  let bits := x.toBits.toNat
  if bits / two 52 % two 11 = 2047 then
    if bits % two 52 ≠ 0 then "nan"
    else if bits / two 63 = 1 then "-inf" else "inf"
  else
    let text := String.ofList (Double.ofBits bits).text
    if bits / two 63 = 1 then "-" ++ text else text

/-- Whether a whole number and a floating-point number are the same number. -/
def sameNumber (n : Int) (x : Float) : Bool :=
  let bits := x.toBits.toNat
  if bits / two 52 % two 11 = 2047 then false
  else
    let d := Double.ofBits bits
    (if bits / two 63 = 1 then n ≤ 0 else 0 ≤ n) && isLevel d.mantissa d.exponent n.natAbs 0

end ThreeBlock.Decimal
