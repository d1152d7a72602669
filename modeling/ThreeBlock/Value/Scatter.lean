-- The order in which a set shows its items. Numbers are scattered over the
-- places of a table by what they count, and shown place by place. Other
-- items keep the order in which they came.
import ThreeBlock.Value
namespace ThreeBlock.Value

/-! ## Keys -/

/-- The modulus of all keys. A power of two modulo it is one of 61. -/
def keyModulus : Nat := Decimal.two 61 - 1

def keyOf (m : Nat) (e : Int) : Nat :=
  m % keyModulus * Decimal.two (e % 61).toNat % keyModulus

/-- The key of a number, as 64 bits. No key stands for minus one. -/
def signedKey (negative : Bool) (key : Nat) : Nat :=
  if !negative || key = 0 then key else Decimal.two 64 - (if key = 1 then 2 else key)

def infinityKey : Nat := 314159

/-- The key of a floating-point number, unless it is none. -/
def floatKey? (x : Float) : Option Nat :=
  let bits := x.toBits.toNat
  let d := Decimal.Double.ofBits bits
  let negative := bits / Decimal.two 63 = 1
  if x.isNaN then none
  else if x.isInf then some (signedKey negative infinityKey)
  else some (signedKey negative (keyOf d.mantissa d.exponent))

/-- The key of a value; only numbers and empty texts have one. -/
def key? : Value → Option Nat
  | .bool b => some (if b then 1 else 0)
  | .int n => some (signedKey (n < 0) (keyOf n.natAbs 0))
  | .float x => floatKey? x
  | .text "" | .bytes [] => some 0
  | _ => none

/-! ## Places -/

/-- How many places a table for `n` items has: a power of two that leaves
more than half of them free. The number bounds the doublings. -/
def tableSize (n : Nat) : Nat → Nat → Nat
  | 0, size => size
  | k + 1, size => if n < 5 || 2 * n < size then size else tableSize n k (2 * size)

def rowLength : Nat := 9

/-- The place of an item from a home on: the first free one in a row, or
else one of the row of another home. The number bounds the homes. -/
def placeFrom (size : Nat) (taken : List Nat) : Nat → Nat → Nat → Nat
  | 0, _, home => home
  | n + 1, key, home =>
    let row := if home + rowLength < size then rowLength + 1 else 1
    match (List.range' home row).find? fun i => !taken.contains i with
    | some i => i
    | none => placeFrom size taken n (key / 32) ((home * 5 + 1 + key / 32) % size)

def places (size : Nat) (keys : List Nat) : List Nat :=
  (keys.foldl (fun taken k => placeFrom size taken (size + 16) k (k % size) :: taken) []).reverse

def scattered (items : List Value) : List Value :=
  match items.mapM key? with
  | none => items
  | some keys =>
    let size := tableSize items.length items.length 8
    (((places size keys).zip items).mergeSort fun a b => a.1 ≤ b.1).map (·.2)

end ThreeBlock.Value
