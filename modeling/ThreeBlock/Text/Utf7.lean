-- UTF-7, an encoding in ASCII alone. Most ASCII characters stand for
-- themselves. The others come in runs that a plus opens, in which the units
-- of UTF-16 are written six bits at a time; each text closes its last run.
import ThreeBlock.Text.Utf8
namespace ThreeBlock.Text

def utf16Units (c : Char) : List Nat :=
  if c.toNat < 0x10000 then [c.toNat]
  else
    let n := c.toNat - 0x10000
    [0xD800 + n / 0x400, 0xDC00 + n % 0x400]

namespace Utf7

/-! ## Six bits at a time -/

def digit (n : Nat) : Char :=
  if n < 26 then Char.ofNat ('A'.toNat + n)
  else if n < 52 then Char.ofNat ('a'.toNat + (n - 26))
  else if n < 62 then Char.ofNat ('0'.toNat + (n - 52))
  else if n = 62 then '+'
  else '/'

/-- Units cut into six bits. Three units fill eight numbers; the last number
of fewer units ends in zeros. -/
def sextets : List Nat → List Nat
  | [] => []
  | [u] => [u / 0x400, u / 0x10 % 0x40, u % 0x10 * 4]
  | [u, v] =>
    [u / 0x400, u / 0x10 % 0x40, u % 0x10 * 4 + v / 0x4000, v / 0x100 % 0x40, v / 4 % 0x40,
      v % 4 * 0x10]
  | u :: v :: w :: us =>
    u / 0x400 :: u / 0x10 % 0x40 :: (u % 0x10 * 4 + v / 0x4000) :: v / 0x100 % 0x40 ::
      v / 4 % 0x40 :: (v % 4 * 0x10 + w / 0x1000) :: w / 0x40 % 0x40 :: w % 0x40 :: sextets us

def digits (units : List Nat) : List Char := (sextets units).map digit

/-! ## Texts -/

def isDirect (c : Char) : Bool :=
  c = '\t' || c = '\n' || c = '\r' ||
    0x20 ≤ c.toNat && c.toNat < 0x7E && c ≠ '+' && c ≠ '\\'

/-- Whether a character behind a run would be taken as part of it. -/
def goesOn (c : Char) : Bool := c.isAlphanum || c = '+' || c = '/' || c = '-'

/-- The characters that a text is written with. Inside a run, its units so far
are given. -/
def written : Option (List Nat) → List Char → List Char
  | none, [] => []
  | some units, [] => digits units ++ ['-']
  | none, c :: cs =>
    if c = '+' then '+' :: '-' :: written none cs
    else if isDirect c then c :: written none cs
    else '+' :: written (some (utf16Units c)) cs
  | some units, c :: cs =>
    if isDirect c then
      digits units ++ (if goesOn c then ['-'] else []) ++ c :: written none cs
    else written (some (units ++ utf16Units c)) cs

def bytes (s : String) : Bytes := (written none s.toList).map fun c => c.toNat.toUInt8

end Utf7

example : Utf7.bytes "a+é-1é" = utf8Bytes "a+-+AOk--1+AOk-" := by decide +kernel

end ThreeBlock.Text
