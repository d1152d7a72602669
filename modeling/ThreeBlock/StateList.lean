-- The states of a machine, in the order declared. A name may occur more
-- than once: each occurrence is an entry of its own, known by its position
-- counted from 1. The first entry is the reset state.
import ThreeBlock.Abort
namespace ThreeBlock

/-- The entry at an index that counts from 0, or back from the end when it
is negative. -/
def entryAt? {α : Type} (xs : List α) (i : Int) : Option α :=
  if 0 ≤ i then xs[i.toNat]?
  else if (-i).toNat ≤ xs.length then xs[xs.length - (-i).toNat]?
  else none

def indexLimit : Int := 9223372036854775808

/-- The entry at an index, or an abort when there is none. An index beyond
every list is refused as such. -/
def entryAt {α : Type} (xs : List α) (i : Int) : Except Abort α :=
  if indexLimit ≤ i || i < -indexLimit then .error .indexTooGreat
  else
    match entryAt? xs i with
    | some x => .ok x
    | none => .error .noEntry

/-- An ordered list of state names. -/
structure StateList where
  /-- The names, first to last. -/
  names : List String
  deriving DecidableEq, Repr, Inhabited

namespace StateList

def size (s : StateList) : Nat := s.names.length

/-- The name of the first entry, if there is one. -/
def reset? (s : StateList) : Option String := s.names.head?

/-- The name of the first entry; a list without entries has none. -/
def reset (s : StateList) : Except Abort String :=
  match s.reset? with
  | some name => .ok name
  | none => .error .noEntry

def at? (s : StateList) (position : Int) : Option String :=
  if 1 ≤ position then s.names[(position - 1).toNat]? else none

/-- The name at a position counted from 1, or an abort outside the list. -/
def nameAt (s : StateList) (position : Int) : Except Abort String :=
  match s.at? position with
  | some name => .ok name
  | none => .error (.noPosition position s.size)

/-- The position, counted from `next`, of the first of the names that is
equal to `name`, or 0. -/
def positionFrom (name : String) (next : Nat) : List String → Nat
  | [] => 0
  | n :: ns => if n = name then next else positionFrom name (next + 1) ns

/-- The position of the first entry with a name, or 0 when no entry has it. -/
def positionOf (s : StateList) (name : String) : Nat := positionFrom name 1 s.names

def numberFrom (next : Nat) : List String → List (Nat × String)
  | [] => []
  | n :: ns => (next, n) :: numberFrom (next + 1) ns

def numbered (s : StateList) : List (Nat × String) := numberFrom 1 s.names

def mapping (s : StateList) : List String :=
  s.numbered.map fun e => Text.natText e.1 ++ ": " ++ e.2

/-- All entries in one text: position, equals sign, name, with commas
between. -/
def describe (s : StateList) : String :=
  String.intercalate ", " (s.numbered.map fun e => Text.natText e.1 ++ " = " ++ e.2)

theorem numberFrom_length (next : Nat) (names : List String) :
    (numberFrom next names).length = names.length := by
  induction names generalizing next with
  | nil => rfl
  | cons n ns ih => simp [numberFrom, ih]

theorem numberFrom_getElem? (next i : Nat) (names : List String) :
    (numberFrom next names)[i]? = names[i]?.map fun n => (next + i, n) := by
  induction names generalizing next i with
  | nil => simp [numberFrom]
  | cons n ns ih =>
    cases i with
    | zero => simp [numberFrom]
    | succ i =>
      simp only [numberFrom, List.getElem?_cons_succ, ih]
      rw [show next + 1 + i = next + (i + 1) by omega]

end StateList

end ThreeBlock
