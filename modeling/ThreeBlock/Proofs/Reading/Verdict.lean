-- What becomes of a text of declarations, told by what stands in it and not by
-- how it is read: which lines count, what each of them declares, the edge that
-- a good token stands for, and the fault of the first bad one.
import Mathlib.Data.List.Forall2
import ThreeBlock.Fault
import ThreeBlock.Proofs.Identifier
import ThreeBlock.Text.Lines
import ThreeBlock.Text.Segments
namespace ThreeBlock

/-! ## Lines and tokens -/

/-- The lines that hold ink. -/
def inkedLines (raw : String) : List (List Char) :=
  (Text.lines raw.toList).filter Text.hasInk

/-- The trimmed fields of a line, between semicolons. -/
def fieldsOf (line : List Char) : List String :=
  (Text.cut ';' line).map fun field => String.ofList (Text.trim field)

/-- The name that a line declares: its first field. -/
def nameOf (line : List Char) : String := (fieldsOf line).headD ""

/-- The tokens of a line: its later fields, the blank ones left out. -/
def tokensOf (line : List Char) : List String := (fieldsOf line).tail.filter (· ≠ "")

/-- The names that a text declares, in order. -/
def declaredNames (raw : String) : List String := (inkedLines raw).map nameOf

/-- A token where it stands. -/
structure Occurrence where
  /-- The number of the line, counted from 1. -/
  line : Nat
  /-- The name that the line declares. -/
  own : String
  token : String
  deriving DecidableEq, Repr

/-- The tokens of a text, line by line. -/
def occurrences (raw : String) : List Occurrence :=
  ((inkedLines raw).zipIdx 1).flatMap fun l =>
    (tokensOf l.1).map fun token => ⟨l.2, nameOf l.1, token⟩

/-! ## Good tokens -/

/-- A token of the form `a-b`. -/
structure Sides (token a b : String) : Prop where
  spelled : token = a ++ "-" ++ b
  source : IsWord a
  target : IsWord b

/-- A side of digits alone. -/
def IsNumeral (side : String) : Prop := ∀ c ∈ side.toList, Text.isDigit c = true

/-- The number that a side of digits stands for. -/
def valueOf (side : String) : Nat := Text.numeralValue side.toList

/-- A side that is a numeral or a declared name. -/
def Refers (names : List String) (side : String) : Prop := IsNumeral side ∨ side ∈ names

/-- A side that means the line on which the token stands. -/
def MeansLine (u : Occurrence) (side : String) : Prop :=
  side = u.own ∨ IsNumeral side ∧ valueOf side = u.line

/-- The state that a side means. -/
inductive Means (names : List String) (side : String) : String → Prop
  | name : side ∈ names → Means names side side
  | position {n : String} : IsNumeral side → 1 ≤ valueOf side →
      names[valueOf side - 1]? = some n → Means names side n

/-- The edge that a good token stands for. -/
inductive Stands (names : List String) (u : Occurrence) : Transition → Prop
  | edge {a b target : String} : Sides u.token a b → MeansLine u a → Means names b target →
      Stands names u ⟨u.own, target, u.line⟩

/-! ## Bad tokens -/

/-- The fault of a bad token. Its form comes first, then the names in it, then
its source, then its target. -/
inductive Objection (names : List String) (u : Occurrence) : Fault → Prop
  | malformed : (∀ a b, ¬ Sides u.token a b) → Objection names u (.malformedToken u.token u.line)
  | noSource {a b : String} : Sides u.token a b → ¬ Refers names a →
      Objection names u (.stateNotFound a u.line)
  | noTarget {a b : String} : Sides u.token a b → Refers names a → ¬ Refers names b →
      Objection names u (.stateNotFound b u.line)
  | foreign {a b : String} : Sides u.token a b → Refers names a → Refers names b →
      ¬ MeansLine u a → Objection names u (.sourceMismatch u.line u.token u.own)
  | outside {a b : String} : Sides u.token a b → Refers names a → Refers names b →
      MeansLine u a → (∀ n, ¬ Means names b n) →
      Objection names u (.targetOutOfRange u.line u.token names.length)

/-! ## Whole texts -/

/-- What a text gives: its states and edges, or its first fault. The count of the
names comes first, then the names, and then the tokens in order. -/
inductive Verdict (raw : String) : Except Fault (StateList × TransitionSet) → Prop
  | tooFew : (declaredNames raw).length < 2 →
      Verdict raw (.error (.insufficientStates (declaredNames raw).length))
  | badNames : 2 ≤ (declaredNames raw).length →
      (∃ n ∈ declaredNames raw, isIdentifier n = false) →
      Verdict raw (.error (.invalidIdentifiers
        ((declaredNames raw).filter fun n => !isIdentifier n)))
  | accepted {edges : List Transition} : 2 ≤ (declaredNames raw).length →
      (∀ n ∈ declaredNames raw, isIdentifier n = true) →
      List.Forall₂ (Stands (declaredNames raw)) (occurrences raw) edges →
      Verdict raw (.ok (⟨declaredNames raw⟩, ⟨edges⟩))
  | refused {before after : List Occurrence} {u : Occurrence} {f : Fault} :
      2 ≤ (declaredNames raw).length → (∀ n ∈ declaredNames raw, isIdentifier n = true) →
      occurrences raw = before ++ u :: after →
      (∀ w ∈ before, ∃ t, Stands (declaredNames raw) w t) →
      Objection (declaredNames raw) u f → Verdict raw (.error f)

/-- The fault is kept when it is told as a stop. -/
theorem eq_of_mapError_fault {α : Type} {v w : Except Fault α}
    (h : v.mapError Stop.fault = w.mapError Stop.fault) : v = w := by
  cases v with
  | error f =>
    cases w with
    | error g => exact congrArg Except.error (Stop.fault.inj (Except.error.inj h))
    | ok y => cases h
  | ok x =>
    cases w with
    | error g => cases h
    | ok y => exact congrArg Except.ok (Except.ok.inj h)

/-- A token without a side of more digits than may be read. -/
def HasShortNumerals (u : Occurrence) : Prop :=
  ∀ a b, Sides u.token a b → ∀ side, side = a ∨ side = b → IsNumeral side →
    side.toList.length ≤ Text.numeralLimit

/-- A numeral of more digits than may be read. -/
def IsLong (side : String) : Prop := IsNumeral side ∧ Text.numeralLimit < side.toList.length

/-- The digits of the numeral at which the reading of a token breaks off. A source is
read once both sides refer to something, and a target once the source means the
line. -/
inductive LongReference (names : List String) (u : Occurrence) : Nat → Prop
  | source {a b : String} : Sides u.token a b → Refers names b → IsLong a →
      LongReference names u a.toList.length
  | target {a b : String} : Sides u.token a b → MeansLine u a → ¬ IsLong a → IsLong b →
      LongReference names u b.toList.length

/-- Without a long numeral no reading breaks off. -/
theorem HasShortNumerals.not_longReference {u : Occurrence} (h : HasShortNumerals u)
    (names : List String) (digits : Nat) : ¬ LongReference names u digits := by
  intro hlong
  cases hlong with
  | source hab _ ha => exact Nat.not_lt.2 (h _ _ hab _ (Or.inl rfl) ha.1) ha.2
  | target hab _ _ hb => exact Nat.not_lt.2 (h _ _ hab _ (Or.inr rfl) hb.1) hb.2

/-- A token that is short itself has no long numeral. -/
theorem hasShortNumerals_of_length_le {u : Occurrence}
    (h : u.token.toList.length ≤ Text.numeralLimit) : HasShortNumerals u := by
  intro a b hab side hside _
  have hlength : u.token.toList.length = a.toList.length + (b.toList.length + 1) := by
    rw [hab.spelled]
    simp
  rcases hside with rfl | rfl
  · omega
  · omega

end ThreeBlock
