-- Identifiers, the names that a state may bear: an ASCII letter or an
-- underscore, then ASCII letters, digits and underscores.
namespace ThreeBlock

def isIdentifierStart (c : Char) : Bool :=
  ('A' ≤ c && c ≤ 'Z') || ('a' ≤ c && c ≤ 'z') || c = '_'

/-- Whether a character may stand after the start of an identifier. -/
def isIdentifierPart (c : Char) : Bool :=
  isIdentifierStart c || ('0' ≤ c && c ≤ '9')

def spellsIdentifier : List Char → Bool
  | [] => false
  | c :: cs => isIdentifierStart c && cs.all isIdentifierPart

/-- Whether a name is an identifier. -/
def isIdentifier (name : String) : Bool := spellsIdentifier name.toList

/-- The names that are no identifiers, in order and with repeats. -/
def invalidNames (names : List String) : List String :=
  names.filter fun name => !isIdentifier name

theorem invalidNames_eq_nil_iff {names : List String} :
    invalidNames names = [] ↔ ∀ name ∈ names, isIdentifier name = true := by
  simp [invalidNames, List.filter_eq_nil_iff]

end ThreeBlock
