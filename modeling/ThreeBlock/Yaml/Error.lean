-- What can be wrong with a YAML text.
import ThreeBlock.Abort
namespace ThreeBlock.Yaml

/-- The reasons why a text is no YAML document that can be read. -/
inductive Error where
  | unprintable (c : Char)
  | strayCharacter (c : Char)
  | missingColon
  /-- A list item, key or value where none may stand. -/
  | misplaced (what : String)
  | openQuote
  | markInQuote
  /-- An escape that is none. -/
  | badEscape
  | badBlockHeader
  | badAnchor
  | badTag
  | badDirective
  | unexpected (expected : String)
  | unknownHandle (handle : String)
  | unknownTag (tag : String)
  | unknownAlias (name : String)
  | repeatedAnchor (name : String)
  | secondDocument
  | compositeKey
  | badMerge
  | badScalar (shown : String)
  | misfit
  | broken
  | aborted (a : Abort)
  deriving DecidableEq, Repr

def Error.message : Error → String
  | .unprintable c => "unacceptable character " ++ Text.quoted (String.ofList [c])
  | .strayCharacter c =>
    "found character " ++ Text.quoted (String.ofList [c]) ++ " that cannot start any token"
  | .missingColon => "could not find expected ':'"
  | .misplaced what => what ++ " are not allowed here"
  | .openQuote => "found unexpected end of stream"
  | .markInQuote => "found unexpected document separator"
  | .badEscape => "found unknown escape character"
  | .badBlockHeader => "expected chomping or indentation indicators"
  | .badAnchor => "expected alphabetic or numeric character"
  | .badTag => "expected the end of the tag"
  | .badDirective => "found a directive that cannot be read"
  | .unexpected expected => "expected " ++ expected
  | .unknownHandle handle => "found undefined tag handle " ++ Text.quoted handle
  | .unknownTag tag => "could not determine a constructor for the tag " ++ Text.quoted tag
  | .unknownAlias name => "found undefined alias " ++ Text.quoted name
  | .repeatedAnchor name => "found duplicate anchor " ++ Text.quoted name
  | .secondDocument => "expected a single document in the stream"
  | .compositeKey => "found unhashable key"
  | .badMerge => "expected a mapping or list of mappings for merging"
  | .badScalar shown => "found a scalar that does not fit its tag: " ++ shown
  | .misfit => "found a node that does not fit its tag"
  | .broken => "the text breaks off"
  | .aborted a => a.message

end ThreeBlock.Yaml
