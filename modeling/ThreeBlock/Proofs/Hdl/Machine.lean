-- The text of a machine spells the circuit of the machine. It has one arm
-- per entry in each block, and the flavor and the table of states leave the
-- circuit as it is.
import ThreeBlock.Proofs.Hdl.ReadBack
import ThreeBlock.Proofs.StateList
import ThreeBlock.Proofs.Text.Numerals
namespace ThreeBlock.Hdl

/-- States and transitions whose names are all identifiers, and at least one
state. -/
structure Spelled (states : StateList) (ts : TransitionSet) : Prop where
  nonempty : states.names ≠ []
  named : ∀ n ∈ states.names, isIdentifier n = true
  source : ∀ t ∈ ts.edges, isIdentifier t.source = true
  target : ∀ t ∈ ts.edges, isIdentifier t.target = true

theorem Spelled.exists_reset {states : StateList} {ts : TransitionSet} (h : Spelled states ts) :
    ∃ start, states.reset? = some start :=
  ⟨_, List.head?_eq_some_head h.nonempty⟩

theorem Spelled.flag {states : StateList} {ts : TransitionSet} (h : Spelled states ts)
    {t : Transition} (ht : t ∈ ts.edges) : isIdentifier t.flag = true :=
  isIdentifier_flagFor (h.source t ht) (h.target t ht)

/-- The circuit of a machine that starts in a state. -/
def Circuit.ofMachine (states : StateList) (ts : TransitionSet) (start : String) : Circuit where
  entries := states.names
  members := ts.flags
  setters := states.numbered.map fun e =>
    (e.2, (ts.fromPosition states e.1).map Transition.flag)
  choosers := states.numbered.map fun e =>
    (e.2, testsOf ((ts.fromPosition states e.1).map Branch.ofTransition))
  fallback := start
  reset := start

theorem isWhole_of_isIdentifier {name : String} (h : isIdentifier name = true) :
    '\n' ∉ name.toList := (isWord_of_isIdentifier h).not_mem (by decide)

/-- An entry of the table of states stands on one line. -/
theorem isWhole_of_mem_mapping {states : StateList}
    (h : ∀ n ∈ states.names, isIdentifier n = true) : ∀ e ∈ states.mapping, '\n' ∉ e.toList := by
  intro e he
  obtain ⟨⟨p, n⟩, hp, rfl⟩ := List.mem_map.1 he
  have hname := isWhole_of_isIdentifier (h n (StateList.mem_of_at? (StateList.mem_numbered.1 hp)))
  have hnumeral : '\n' ∉ Text.numeral p := fun hm =>
    absurd (Text.isDigit_of_mem_numeral hm) (by decide)
  simp [Text.toList_natText, hname, hnumeral]

theorem Spelled.arms {states : StateList} {ts : TransitionSet} (h : Spelled states ts) :
    ∀ a ∈ armsOf states ts, a.IsNamed states.names := by
  intro a ha
  obtain ⟨⟨p, n⟩, hp, rfl⟩ := List.mem_map.1 ha
  have hbranch : ∀ b ∈ (Arm.ofEntry states ts (p, n)).branches,
      ∃ t ∈ ts.edges, b = Branch.ofTransition t := by
    intro b hb
    obtain ⟨t, ht, rfl⟩ := List.mem_map.1 hb
    exact ⟨t, (List.mem_filter.1 ht).1, rfl⟩
  constructor
  · exact StateList.mem_of_at? (StateList.mem_numbered.1 hp)
  · intro b hb
    obtain ⟨t, ht, rfl⟩ := hbranch b hb
    exact h.flag ht
  · intro b hb
    obtain ⟨t, ht, rfl⟩ := hbranch b hb
    exact h.target t ht

/-- The document of a machine that starts in a state. -/
def Document.startingIn (start : String) (flavor : Flavor) (withMap : Bool) (states : StateList)
    (ts : TransitionSet) : Document where
  flavor := flavor
  stateMap := if withMap then states.mapping else []
  states := states.names
  flags := ts.flags
  arms := armsOf states ts
  reset := start

theorem render_eq_ok {states : StateList} {start : String} (hstart : states.reset? = some start)
    (flavor : Flavor) (withMap : Bool) (ts : TransitionSet) :
    render flavor withMap states ts =
      .ok (Document.startingIn start flavor withMap states ts).text := by
  rw [render, Document.ofMachine, StateList.reset, hstart]
  rfl

theorem Spelled.document {states : StateList} {ts : TransitionSet} (h : Spelled states ts)
    {start : String} (hstart : states.reset? = some start) (flavor : Flavor) (withMap : Bool) :
    (Document.startingIn start flavor withMap states ts).IsNamed where
  nonempty := h.nonempty
  states := h.named
  flags := by
    intro f hf
    obtain ⟨t, ht, rfl⟩ := List.mem_map.1 hf
    exact h.flag ht
  arms := h.arms
  reset := h.named start (List.mem_of_mem_head? hstart)
  stateMap := by
    intro e he
    cases withMap with
    | false => cases he
    | true => exact isWhole_of_mem_mapping h.named e he

theorem ofDocument_startingIn (start : String) (flavor : Flavor) (withMap : Bool)
    (states : StateList) (ts : TransitionSet) :
    Circuit.ofDocument (.startingIn start flavor withMap states ts) =
      Circuit.ofMachine states ts start := by
  simp only [Circuit.ofDocument, Circuit.ofMachine, Document.startingIn, armsOf, Arm.ofEntry,
    List.map_map, Function.comp_def]
  rfl

/-- The text of a machine spells its circuit. -/
theorem Spelled.read_text {states : StateList} {ts : TransitionSet} (h : Spelled states ts)
    {start : String} (hstart : states.reset? = some start) (flavor : Flavor) (withMap : Bool) :
    Circuit.read (Document.startingIn start flavor withMap states ts).text =
      some (Circuit.ofMachine states ts start) := by
  rw [Hdl.read_text (h.document hstart flavor withMap), ofDocument_startingIn]

end ThreeBlock.Hdl
