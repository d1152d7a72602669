-- Edges that join the states of a list. Each edge leaves the entry that it
-- names, so it is the edge between two positions, even when names are repeated.
import ThreeBlock.Identifier
import ThreeBlock.Proofs.Rows
import ThreeBlock.Proofs.StateList
import ThreeBlock.Transition
namespace ThreeBlock

/-- At least two states with identifiers as names, and edges that join them, each
with the entry of its source. -/
structure IsJoined (states : StateList) (ts : TransitionSet) : Prop where
  count : 2 ≤ states.size
  named : ∀ n ∈ states.names, isIdentifier n = true
  entry : ∀ t ∈ ts.edges, states.at? t.entry = some t.source
  target : ∀ t ∈ ts.edges, t.target ∈ states.names

theorem leaves_of_at? {states : StateList} {t : Transition}
    (h : states.at? t.entry = some t.source) : t.leaves states = t.entry := by
  obtain ⟨i, hi, _⟩ := StateList.at?_eq_some_iff.1 h
  unfold Transition.leaves
  rw [if_neg (by omega)]

theorem Transition.between_of_at? {states : StateList} {t : Transition} {target : Int}
    (hsource : states.at? t.entry = some t.source) (htarget : states.at? target = some t.target) :
    Transition.between states (t.entry, target) = .ok t := by
  simp only [Transition.between, StateList.nameAt_eq_ok_iff.2 hsource,
    StateList.nameAt_eq_ok_iff.2 htarget]

/-- The edges of one entry, in priority order. -/
def TransitionSet.ofEntry (ts : TransitionSet) (p : Int) : List Transition :=
  ts.edges.filter fun t => t.entry = p

theorem IsJoined.fromPosition_eq {states : StateList} {ts : TransitionSet}
    (h : IsJoined states ts) (p : Int) : ts.fromPosition states p = ts.ofEntry p := by
  apply List.filter_congr
  intro t ht
  rw [leaves_of_at? (h.entry t ht)]

/-- The positions of the entry that an edge leaves and of its target. -/
def Transition.positions (states : StateList) (t : Transition) : Nat × Nat :=
  (t.entry.toNat, states.positionOf t.target)

namespace IsJoined

variable {states : StateList} {ts : TransitionSet} {t : Transition}

theorem entry_eq (h : IsJoined states ts) (ht : t ∈ ts.edges) :
    t.entry = (t.positions states).1 := by
  obtain ⟨i, hi, _⟩ := StateList.at?_eq_some_iff.1 (h.entry t ht)
  rw [Transition.positions]
  omega

theorem source_in_range (h : IsJoined states ts) (ht : t ∈ ts.edges) :
    1 ≤ (t.positions states).1 ∧ (t.positions states).1 ≤ states.size := by
  obtain ⟨i, hi, hname⟩ := StateList.at?_eq_some_iff.1 (h.entry t ht)
  obtain ⟨hlt, _⟩ := List.getElem?_eq_some_iff.1 hname
  rw [Transition.positions, StateList.size]
  omega

theorem target_in_range (h : IsJoined states ts) (ht : t ∈ ts.edges) :
    1 ≤ (t.positions states).2 ∧ (t.positions states).2 ≤ states.size :=
  ⟨StateList.positionOf_pos (h.target t ht), StateList.positionOf_le (h.target t ht)⟩

/-- An edge is the edge between its positions. -/
theorem between_positions (h : IsJoined states ts) (ht : t ∈ ts.edges) :
    Transition.between states (↑(t.positions states).1, ↑(t.positions states).2) = .ok t := by
  rw [← h.entry_eq ht]
  exact Transition.between_of_at? (h.entry t ht) (StateList.at?_positionOf (h.target t ht))

/-- The edges between the positions of some edges are those edges. -/
theorem ofPositions_positions (h : IsJoined states ts) :
    TransitionSet.ofPositions states
      ((ts.edges.map (Transition.positions states)).map fun p => (↑p.1, ↑p.2)) = .ok ts := by
  have hedges : ts.edges.mapM (fun t => Transition.between states
      (↑(t.positions states).1, ↑(t.positions states).2)) = .ok (ts.edges.map id) :=
    mapM_eq_ok_map fun _ ht => h.between_positions ht
  rw [List.map_id] at hedges
  rw [TransitionSet.ofPositions, List.mapM_map, List.mapM_map]
  exact congrArg (Except.map TransitionSet.mk) hedges

end IsJoined

end ThreeBlock
