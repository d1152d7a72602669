-- Bytes written as text: each character of an alphabet of 64 stands for six
-- bits. Other characters are passed over, and an equals sign fills up the
-- end.
import ThreeBlock.Text.Points
namespace ThreeBlock.Yaml

/-! ## The alphabet -/

def sextet? (c : Char) : Option Nat :=
  if 'A' ≤ c && c ≤ 'Z' then some (c.toNat - 65)
  else if 'a' ≤ c && c ≤ 'z' then some (c.toNat - 71)
  else if '0' ≤ c && c ≤ '9' then some (c.toNat + 4)
  else if c = '+' then some 62
  else if c = '/' then some 63
  else none

/-! ## Bytes -/

/-- Where the reading of a group of four characters stands. -/
structure Sextets where
  place : Nat := 0
  /-- The bits of the last character that are not yet in a byte. -/
  left : Nat := 0
  fills : Nat := 0

/-- The state after a character of the alphabet, and the byte that it
completes. -/
def Sextets.next (s : Sextets) (n : Nat) : Sextets × List UInt8 :=
  match s.place with
  | 0 => ({ place := 1, left := n }, [])
  | 1 => ({ place := 2, left := n % 16 }, [(s.left * 4 + n / 16).toUInt8])
  | 2 => ({ place := 3, left := n % 4 }, [(s.left * 16 + n / 4).toUInt8])
  | _ => ({}, [(s.left * 64 + n).toUInt8])

/-- The bytes that characters stand for; none when the last group is not
full. -/
def bytesFrom (s : Sextets) : List Char → Option (List UInt8)
  | [] => if s.place = 0 then some [] else none
  | c :: cs =>
    if c = '=' then
      if 2 ≤ s.place && 4 ≤ s.place + s.fills + 1 then some []
      else bytesFrom (if 2 ≤ s.place then { s with fills := s.fills + 1 } else s) cs
    else
      match sextet? c with
      | none => bytesFrom s cs
      | some n =>
        let (s, bs) := s.next n
        (bytesFrom s cs).map (bs ++ ·)

/-- The bytes that a text stands for. It must be ASCII. -/
def bytesOf? (text : Text.Points) : Option (List UInt8) :=
  if text.all (· < 128) then bytesFrom {} (Text.charsOf text) else none

end ThreeBlock.Yaml
