-- Text as bytes in UTF-8. It is read strictly: the first byte sequence that
-- is none of a character is reported with its place and its fault.
import ThreeBlock.Text.Numeral
import ThreeBlock.Text.Quoted
namespace ThreeBlock.Text

abbrev Bytes := List UInt8

/-! ## One character -/

/-- What the bytes ahead start with. -/
inductive Utf8Step where
  | char (c : Char) (used : Nat)
  | short
  | bad (reason : String) (width : Nat)

def isContinuation (b : UInt8) : Bool := 0x80 ≤ b && b ≤ 0xBF

def badStart : Utf8Step := .bad "invalid start byte" 1

/-- The fault of a byte that does not go on with the `width` bytes before. -/
def badContinuation (width : Nat) : Utf8Step := .bad "invalid continuation byte" width

def payload (b : UInt8) : Nat := b.toNat % 0x40

def twoBytes (a : UInt8) : Bytes → Utf8Step
  | [] => .short
  | b :: _ =>
    if isContinuation b then .char (Char.ofNat (a.toNat % 0x20 * 0x40 + payload b)) 2
    else badContinuation 1

/-- Whether `b` may follow `a` in a character of three bytes. -/
def mayFollowThree (a b : UInt8) : Bool :=
  isContinuation b && !(a = 0xE0 && b < 0xA0) && !(a = 0xED && 0xA0 ≤ b)

def threeBytes (a : UInt8) : Bytes → Utf8Step
  | [] => .short
  | b :: bs =>
    if !mayFollowThree a b then badContinuation 1
    else
      match bs with
      | [] => .short
      | c :: _ =>
        if !isContinuation c then badContinuation 2
        else .char (Char.ofNat (a.toNat % 0x10 * 0x1000 + payload b * 0x40 + payload c)) 3

/-- Whether `b` may follow `a` in a character of four bytes. -/
def mayFollowFour (a b : UInt8) : Bool :=
  isContinuation b && !(a = 0xF0 && b < 0x90) && !(a = 0xF4 && 0x90 ≤ b)

def fourBytes (a : UInt8) : Bytes → Utf8Step
  | [] => .short
  | b :: bs =>
    if !mayFollowFour a b then badContinuation 1
    else
      match bs with
      | [] => .short
      | c :: cs =>
        if !isContinuation c then badContinuation 2
        else
          match cs with
          | [] => .short
          | d :: _ =>
            if !isContinuation d then badContinuation 3
            else
              .char (Char.ofNat (a.toNat % 0x08 * 0x40000 + payload b * 0x1000 +
                payload c * 0x40 + payload d)) 4

/-- What a first byte and the bytes behind it start with. -/
def utf8Step (a : UInt8) (bs : Bytes) : Utf8Step :=
  if a < 0x80 then .char (Char.ofNat a.toNat) 1
  else if a < 0xC2 then badStart
  else if a < 0xE0 then twoBytes a bs
  else if a < 0xF0 then threeBytes a bs
  else if a < 0xF5 then fourBytes a bs
  else badStart

/-! ## Decoding -/

/-- Bytes that are no text. -/
structure DecodeError where
  /-- The first byte at fault. -/
  byte : UInt8
  position : Nat
  width : Nat
  reason : String
  deriving DecidableEq, Repr

def DecodeError.message (e : DecodeError) : String :=
  let place :=
    if e.width = 1 then
      "byte 0x" ++ String.ofList (hexDigits 2 e.byte.toNat) ++ " in position " ++
        natText e.position
    else
      "bytes in position " ++ natText e.position ++ "-" ++ natText (e.position + e.width - 1)
  "'utf-8' codec can't decode " ++ place ++ ": " ++ e.reason

/-- Whether bytes may still become a character, or a fault that only the end
of the bytes settles. -/
def isHeld (a : UInt8) (bs : Bytes) : Bool :=
  match utf8Step a bs with
  | .short => true
  | .bad .. => a = 0xED && bs.length = 1 && bs.all isContinuation
  | .char .. => false

/-- The characters of some bytes, the first of them at `position`, and the
bytes at the end that may still become a character. -/
def decodeFrom (position : Nat) : Bytes → Except DecodeError (List Char × Bytes)
  | [] => .ok ([], [])
  | a :: bs =>
    if isHeld a bs then .ok ([], a :: bs)
    else
      match utf8Step a bs with
      | .char c used =>
        (decodeFrom (position + used) (bs.drop (used - 1))).map fun r => (c :: r.1, r.2)
      | .short => .ok ([], a :: bs)
      | .bad reason width => .error ⟨a, position, width, reason⟩
termination_by bytes => bytes.length
decreasing_by simp only [List.length_drop, List.length_cons]; omega

def heldError (position : Nat) : Bytes → Option DecodeError
  | [] => none
  | a :: bs =>
    match utf8Step a bs with
    | .bad reason width => some ⟨a, position, width, reason⟩
    | _ => some ⟨a, position, bs.length + 1, "unexpected end of data"⟩

def decode (bytes : Bytes) : Except DecodeError (List Char) :=
  match decodeFrom 0 bytes with
  | .error e => .error e
  | .ok (cs, held) =>
    match heldError (bytes.length - held.length) held with
    | none => .ok cs
    | some e => .error e

/-! ## Encoding -/

def utf8Bytes (s : String) : Bytes := s.toList.flatMap String.utf8EncodeChar

end ThreeBlock.Text
