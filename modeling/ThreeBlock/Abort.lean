-- What ends a computation without an answer. An abort is not a mistake
-- that the user is told about by name: it stops the run, and the command
-- line reports its message as it stands.
import ThreeBlock.Calendar
import ThreeBlock.Text.Quoted
namespace ThreeBlock

/-- The reasons why a computation ends without an answer. -/
inductive Abort where
  | numeralTooLong (digits : Nat)
  | numberTooLong
  | noInteger (base : Nat) (shown : String)
  | noNumber (shown : String)
  | numberTooGreat
  | noTruth (shown : String)
  /-- A number is to be read from no text at all. -/
  | nothingToRead
  | noMoment
  | momentOfMap
  | calendar (f : CalendarFault)
  /-- A number is beyond the last character. -/
  | noCharacter
  /-- A number is beyond the last one that may stand for a character. -/
  | codeTooGreat
  | noEntry
  | indexTooGreat
  | noPosition (position : Int) (count : Nat)
  | unknownFlavor (text : String)
  /-- Text is to be cut at an empty separator. -/
  | emptySeparator
  | nestedTooDeep
  | mergedTooDeep
  | shownTooDeep
  deriving DecidableEq, Repr

namespace Abort

def limitMessage (particulars : String) : String :=
  "Exceeds the limit (" ++ Text.natText Text.numeralLimit ++
    " digits) for integer string conversion" ++ particulars ++
    "; use sys.set_int_max_str_digits() to increase the limit"

/-- How much of a text is shown when it spells no whole number. -/
def shownLength : Nat := 200

def message : Abort → String
  | .numeralTooLong digits => limitMessage (": value has " ++ Text.natText digits ++ " digits")
  | .numberTooLong => limitMessage ""
  | .noInteger base shown =>
    "invalid literal for int() with base " ++ Text.natText base ++ ": " ++
      String.ofList (shown.toList.take shownLength)
  | .noNumber shown => "could not convert string to float: " ++ shown
  | .numberTooGreat => "int too large to convert to float"
  | .noTruth shown => shown
  | .nothingToRead => "string index out of range"
  | .noMoment => "'NoneType' object has no attribute 'groupdict'"
  | .momentOfMap => "expected string or bytes-like object, got 'list'"
  | .calendar f => f.message
  | .noCharacter => "chr() arg not in range(0x110000)"
  | .codeTooGreat => "Python int too large to convert to C int"
  | .noEntry => "tuple index out of range"
  | .indexTooGreat => "cannot fit 'int' into an index-sized integer"
  | .noPosition position count =>
    "State position " ++ Text.intText position ++ " outside 1-" ++ Text.natText count
  | .unknownFlavor text => Text.quoted text ++ " is not a valid Flavor"
  | .emptySeparator => "empty separator"
  | .nestedTooDeep => "maximum recursion depth exceeded"
  | .mergedTooDeep => "maximum recursion depth exceeded in comparison"
  | .shownTooDeep => "maximum recursion depth exceeded while getting the repr of an object"

end Abort

/-- The number that a numeral stands for, or an abort when it is too long. -/
def readNumeral (cs : List Char) : Except Abort Nat :=
  if cs.length ≤ Text.numeralLimit then .ok (Text.numeralValue cs)
  else .error (.numeralTooLong cs.length)

theorem readNumeral_of_le {cs : List Char} (h : cs.length ≤ Text.numeralLimit) :
    readNumeral cs = .ok (Text.numeralValue cs) := if_pos h

end ThreeBlock
