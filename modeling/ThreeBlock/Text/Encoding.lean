-- Encodings. A codec gives the bytes of a text, and it gives the bytes that a
-- text adds to a file behind earlier ones. The two need not agree: a codec may
-- put a mark in front of the first text, or close each text by itself.
import ThreeBlock.Text.Utf7
namespace ThreeBlock.Text

/-! ## Codecs -/

/-- How texts become bytes, as a whole and one after the other. What cannot be
encoded has a message. -/
structure Codec where
  whole : String → Except String Bytes
  next : List String → String → Except String Bytes

namespace Codec

def pieces (c : Codec) (earlier : List String) : List String → Except String Bytes
  | [] => .ok []
  | t :: ts => do
    let bytes ← c.next earlier t
    let more ← c.pieces (earlier ++ [t]) ts
    return bytes ++ more

/-- The codec that encodes each text by itself, with a mark in front of the
first. -/
def ofEncoder (mark : Bytes) (encode : String → Except String Bytes) : Codec where
  whole s := (encode s).map (mark ++ ·)
  next earlier s := (encode s).map ((if earlier.isEmpty then mark else []) ++ ·)

end Codec

/-! ## One byte for each character -/

/-- A text that an encoding lacks characters for. -/
structure EncodeError where
  encoding : String
  limit : Nat
  /-- The first character that it lacks. -/
  char : Char
  position : Nat
  width : Nat
  deriving DecidableEq, Repr

def EncodeError.message (e : EncodeError) : String :=
  let place :=
    if e.width = 1 then
      "character '" ++ String.ofList (codeEscape e.char.toNat) ++ "' in position " ++
        natText e.position
    else
      "characters in position " ++ natText e.position ++ "-" ++ natText (e.position + e.width - 1)
  "'" ++ e.encoding ++ "' codec can't encode " ++ place ++ ": ordinal not in range(" ++
    natText e.limit ++ ")"

/-- The bytes of a text with one byte for each character, the first of them
at `position`. -/
def singleBytes (encoding : String) (limit position : Nat) :
    List Char → Except EncodeError Bytes
  | [] => .ok []
  | c :: cs =>
    if c.toNat < limit then
      (singleBytes encoding limit (position + 1) cs).map (c.toNat.toUInt8 :: ·)
    else
      let more := (cs.takeWhile fun d => limit ≤ d.toNat).length
      .error ⟨encoding, limit, c, position, more + 1⟩

/-! ## Units of several bytes -/

/-- The order of the bytes of a unit. -/
inductive ByteOrder where
  | little
  | big
  deriving DecidableEq, Repr

def unitBytes (order : ByteOrder) (width n : Nat) : Bytes :=
  let low := (List.range width).map fun i => (n / Nat.pow 0x100 i).toUInt8
  match order with
  | .little => low
  | .big => low.reverse

def utf16Bytes (order : ByteOrder) (s : String) : Bytes :=
  s.toList.flatMap fun c => (utf16Units c).flatMap (unitBytes order 2)

def utf32Bytes (order : ByteOrder) (s : String) : Bytes :=
  s.toList.flatMap fun c => unitBytes order 4 c.toNat

/-! ## Encodings -/

/-- The encodings that are known by name. UTF-16 and UTF-32 without an order
are marked and little-endian. -/
inductive Encoding where
  | utf7
  | utf8 (marked : Bool)
  | utf16 (order : Option ByteOrder)
  | utf32 (order : Option ByteOrder)
  | ascii
  | latin1
  deriving DecidableEq, Repr

def markText : String := String.ofList [Char.ofNat 0xFEFF]

namespace Encoding

def mark : Encoding → Bytes
  | .utf8 true => utf8Bytes markText
  | .utf16 none => utf16Bytes .little markText
  | .utf32 none => utf32Bytes .little markText
  | _ => []

def encode : Encoding → String → Except EncodeError Bytes
  | .utf7, s => .ok (Utf7.bytes s)
  | .utf8 _, s => .ok (utf8Bytes s)
  | .utf16 order, s => .ok (utf16Bytes (order.getD .little) s)
  | .utf32 order, s => .ok (utf32Bytes (order.getD .little) s)
  | .ascii, s => singleBytes "ascii" 128 0 s.toList
  | .latin1, s => singleBytes "latin-1" 256 0 s.toList

def codec (e : Encoding) : Codec := .ofEncoder e.mark fun s => (e.encode s).mapError (·.message)

/-! ## Names -/

/-- All encodings with their names, the usual one first. -/
def names : List (Encoding × List String) :=
  [(.utf7, ["utf_7", "u7", "utf7", "unicode_1_1_utf_7"]),
    (.utf8 false, ["utf_8", "u8", "utf", "utf8", "utf8_ucs2", "utf8_ucs4", "cp65001"]),
    (.utf8 true, ["utf_8_sig"]),
    (.utf16 none, ["utf_16", "u16", "utf16"]),
    (.utf16 (some .little), ["utf_16_le", "unicodelittleunmarked", "utf_16le"]),
    (.utf16 (some .big), ["utf_16_be", "unicodebigunmarked", "utf_16be"]),
    (.utf32 none, ["utf_32", "u32", "utf32"]),
    (.utf32 (some .little), ["utf_32_le", "utf_32le"]),
    (.utf32 (some .big), ["utf_32_be", "utf_32be"]),
    (.ascii, ["ascii", "646", "ansi_x3.4_1968", "ansi_x3_4_1968", "ansi_x3.4_1986", "cp367",
      "csascii", "ibm367", "iso646_us", "iso_646.irv_1991", "iso_ir_6", "us", "us_ascii"]),
    (.latin1, ["latin_1", "8859", "cp819", "csisolatin1", "ibm819", "iso8859", "iso8859_1",
      "iso_8859_1", "iso_8859_1_1987", "iso_ir_100", "l1", "latin", "latin1"])]

/-- Whether a character is part of a word in the name of an encoding. -/
def isNamePart (c : Char) : Bool := c.isAlphanum || c = '.'

def usualName (name : String) : String :=
  let words := (name.toList.splitBy fun a b => isNamePart a = isNamePart b).filter
    fun w => w.all isNamePart
  String.intercalate "_" (words.map fun w => String.ofList (w.map Char.toLower))

def ofUsualName? (name : String) : Option Encoding :=
  (names.find? fun e => e.2.contains name).map Prod.fst

/-- The encoding with a name. A point may stand for an underscore, but not in
the first name of an encoding. -/
def ofName? (name : String) : Option Encoding :=
  let usual := usualName name
  match ofUsualName? usual with
  | some e => some e
  | none =>
    let other := String.ofList (usual.toList.map fun c => if c = '.' then '_' else c)
    if names.any (fun e => e.2.head? = some other) then none else ofUsualName? other

end Encoding

end ThreeBlock.Text
