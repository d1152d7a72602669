-- The text of a file as it is read bit by bit. A reader takes a piece of the
-- text at a time, and bytes are fetched when the text at hand does not
-- suffice. So the text in front of bytes that are none, or of a file that is
-- cut short, is still read, up to some piece. The breaks of all lines are made
-- line feeds.
import ThreeBlock.Text.Lines
import ThreeBlock.Text.Utf8
namespace ThreeBlock.Text

/-! ## Fetching bytes -/

/-- What a text breaks off at: bytes that are none, or the error of a file that
is cut short. -/
inductive TextBreak (ε : Type) where
  | undecodable (e : DecodeError)
  | cut (e : ε)
  deriving DecidableEq, Repr

/-- Where the reading of a file stands. -/
structure Intake (ε : Type) where
  bytes : Bytes
  /-- The error behind the last of them, if there is one. -/
  cut : Option ε
  held : Bytes := []
  waits : Bool := false
  ready : List Char := []
  /-- How many bytes a character took in the last portion. -/
  ratio : Float := 0

def portionSize : Nat := 8192

/-- How many bytes are fetched for a number of characters: as many as they
would take, going by the last portion. -/
def Intake.portion {ε : Type} (i : Intake ε) (wanted : Nat) : Nat :=
  max portionSize (max i.ratio 1 * wanted.toFloat).toUInt64.toNat

/-- The characters of the bytes fetched, and the bytes that are held. At the
end of the file none may be held. -/
def decodePortion (bytes : Bytes) (last : Bool) : Except DecodeError (List Char × Bytes) := do
  let (cs, held) ← decodeFrom 0 bytes
  match heldError 0 held with
  | some e => if last then throw e else return (cs, held)
  | none => return (cs, held)

/-- The characters of a portion with one kind of break, and whether a
carriage return waits at its end. -/
def settleBreaks (waits last : Bool) (cs : List Char) : List Char × Bool :=
  let cs := if waits && (last || !cs.isEmpty) then '\r' :: cs else cs
  let waits := (waits && cs.isEmpty) || (!last && cs.getLast? = some '\r')
  (unifyBreaks (if waits then cs.dropLast else cs), waits)

/-- A portion is taken in; an empty one is the end of the file. -/
def Intake.takeIn {ε : Type} (i : Intake ε) (portion : Bytes) : Except DecodeError (Intake ε) := do
  let (cs, held) ← decodePortion (i.held ++ portion) portion.isEmpty
  let (cs, waits) := settleBreaks i.waits portion.isEmpty cs
  let ratio := if cs.isEmpty then 0 else portion.length.toFloat / cs.length.toFloat
  return { i with
    bytes := i.bytes.drop portion.length, held, waits, ready := i.ready ++ cs, ratio }

/-- One portion more is fetched. Where the file is cut short there is none, and
no end. -/
def Intake.fetch {ε : Type} (i : Intake ε) (wanted : Nat) : Except (TextBreak ε) (Intake ε) :=
  let portion := i.bytes.take (i.portion wanted)
  match portion.isEmpty, i.cut with
  | true, some e => .error (.cut e)
  | _, _ => (i.takeIn portion).mapError .undecodable

/-! ## Pieces -/

/-- How many characters a piece has; only the last has fewer. -/
def pieceLength : Nat := 4096

/-- Portions are fetched until a piece is at hand, or all of the file. The
number bounds them. -/
def Intake.fill {ε : Type} : Nat → Intake ε → Except (TextBreak ε) (Intake ε)
  | 0, i => .ok i
  | n + 1, i =>
    if pieceLength ≤ i.ready.length then .ok i
    else do
      let wanted := pieceLength - i.ready.length
      let more ← i.fetch wanted
      if i.bytes.isEmpty then return more else more.fill n

/-- The pieces of a file, up to its end or a break. The number bounds
them. -/
def Intake.pieces {ε : Type} : Nat → Intake ε → List (List Char) × Option (TextBreak ε)
  | 0, _ => ([], none)
  | n + 1, i =>
    match i.fill (i.bytes.length + 2) with
    | .error e => ([], some e)
    | .ok i =>
      if i.ready.isEmpty then ([], none)
      else
        let (ps, e) := Intake.pieces n { i with ready := i.ready.drop pieceLength }
        (i.ready.take pieceLength :: ps, e)

/-- The pieces of the text of a file, up to its end or a break. The file may be
cut short behind the bytes. -/
def piecesOf {ε : Type} (bytes : Bytes) (cut : Option ε) :
    List (List Char) × Option (TextBreak ε) :=
  Intake.pieces (bytes.length + 1) { bytes, cut }

end ThreeBlock.Text
