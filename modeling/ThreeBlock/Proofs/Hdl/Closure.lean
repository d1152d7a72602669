-- The text of a generated machine is closed. Its arms are those of the entries
-- in order, each with the edges of its own entry, so every edge stands in one
-- arm of each block and in no other; the flags set and the flags tested are
-- those declared, and every next state is an entry. This holds with repeated
-- states and with flags that several edges share.
import Mathlib.Data.Int.Order.Basic
import Mathlib.Data.List.Range
import ThreeBlock.Proofs.Acceptance
import ThreeBlock.Proofs.Sorting
namespace ThreeBlock

/-! ## Edges by their entry -/

/-- The edges of all entries, one entry after the other, are all edges. -/
theorem IsJoined.flatMap_ofEntry_perm {states : StateList} {ts : TransitionSet}
    (h : IsJoined states ts) :
    (states.numbered.flatMap fun e => ts.ofEntry e.1).Perm ts.edges := by
  have hkeys : (states.numbered.flatMap fun e => ts.ofEntry e.1) =
      (states.numbered.map fun e => (e.1 : Int)).flatMap fun p =>
        ts.edges.filter fun t => t.entry = p := by
    rw [List.flatMap_map]
    rfl
  have hordered : (states.numbered.map fun e => (e.1 : Int)).Pairwise (· < ·) := by
    have hmap : (states.numbered.map fun e => (e.1 : Int)) =
        (List.range' 1 states.size).map fun p : Nat => (p : Int) := by
      rw [← StateList.map_fst_numbered, List.map_map]
      rfl
    rw [hmap]
    exact List.Pairwise.map _ (fun _ _ => Int.ofNat_lt.2) List.pairwise_lt_range'
  have hcovered : ∀ t ∈ ts.edges, t.entry ∈ states.numbered.map fun e => (e.1 : Int) := by
    intro t ht
    obtain ⟨i, hi, hname⟩ := StateList.at?_eq_some_iff.1 (h.entry t ht)
    have hmem : (i + 1, t.source) ∈ states.numbered :=
      StateList.mem_numbered.2 (StateList.at?_eq_some_iff.2 ⟨i, rfl, hname⟩)
    rw [hi]
    exact List.mem_map.2 ⟨_, hmem, rfl⟩
  rw [hkeys, ← sortBy_eq_flatMap Transition.entry hordered hcovered]
  exact sortBy_perm _ _

namespace Hdl

/-! ## What a circuit sets and tests -/

namespace Circuit

/-- The flags that the arms of the first block set, each with the number of its
arm. -/
def assignments (c : Circuit) : List (Int × String) :=
  (c.setters.zipIdx 1).flatMap fun a => a.1.2.map fun f => ((a.2 : Int), f)

/-- The tests in the arms of the second block, each with the number of its arm,
its flag and its target. -/
def decisions (c : Circuit) : List (Int × String × String) :=
  (c.choosers.zipIdx 1).flatMap fun a => a.1.2.map fun t => ((a.2 : Int), t.flag, t.target)

/-- A circuit shows a machine: its entries are the states and its members the
flags, in order, and the arm of an entry holds the edges of that entry, in order. -/
structure Shows (c : Circuit) (d : Definition) : Prop where
  entries : c.entries = d.states.names
  members : c.members = d.transitions.flags
  setterLabels : c.setters.map Prod.fst = d.states.names
  chooserLabels : c.choosers.map Prod.fst = d.states.names
  set : ∀ (i : Nat) arm, c.setters[i]? = some arm →
    arm.2 = (d.transitions.ofEntry (i + 1)).map Transition.flag
  tested : ∀ (i : Nat) arm, c.choosers[i]? = some arm →
    arm.2.map Test.flag = (d.transitions.ofEntry (i + 1)).map Transition.flag
  targets : ∀ (i : Nat) arm, c.choosers[i]? = some arm →
    arm.2.map Test.target = (d.transitions.ofEntry (i + 1)).map Transition.target
  setOnce : c.assignments.Perm (d.transitions.edges.map fun t => (t.entry, t.flag))
  testedOnce : c.decisions.Perm (d.transitions.edges.map fun t => (t.entry, t.flag, t.target))

/-- A circuit is closed: the flags that it sets and those that it tests are its
members, each as often, and every state that it may enter is an entry. -/
structure IsClosed (c : Circuit) : Prop where
  set : (c.assignments.map Prod.snd).Perm c.members
  tested : (c.decisions.map fun t => t.2.1).Perm c.members
  declared : ∀ t ∈ c.decisions, t.2.1 ∈ c.members
  targets : ∀ t ∈ c.decisions, t.2.2 ∈ c.entries
  fallback : c.fallback ∈ c.entries
  reset : c.reset ∈ c.entries

end Circuit

/-! ## The circuit of a machine -/

theorem map_testsOf {α : Type} (f : String → String → α) (bs : List Branch) :
    (testsOf bs).map (fun t => f t.flag t.target) = bs.map fun b => f b.flag b.target := by
  cases bs with
  | nil => rfl
  | cons b bs => simp [testsOf, Function.comp_def]

/-- The tests of some edges, as the edges say. -/
theorem map_testsOf_edges {α : Type} (f : String → String → α) (es : List Transition) :
    (testsOf (es.map Branch.ofTransition)).map (fun t => f t.flag t.target) =
      es.map fun t => f t.flag t.target := by
  rw [map_testsOf, List.map_map]
  rfl

section Machine

variable {states : StateList} {ts : TransitionSet}

theorem assignments_ofMachine (h : IsJoined states ts) (start : String) :
    (Circuit.ofMachine states ts start).assignments.Perm
      (ts.edges.map fun t => (t.entry, t.flag)) := by
  have hlist : (Circuit.ofMachine states ts start).assignments =
      (states.numbered.flatMap fun e => ts.ofEntry e.1).map fun t => (t.entry, t.flag) := by
    rw [Circuit.assignments, Circuit.ofMachine, StateList.numbered, StateList.zipIdx_map_numberFrom,
      List.flatMap_map, List.map_flatMap]
    apply List.flatMap_congr
    intro e _
    simp only [h.fromPosition_eq, List.map_map]
    apply List.map_congr_left
    intro t ht
    rw [Function.comp_apply, of_decide_eq_true (List.mem_filter.1 ht).2]
  rw [hlist]
  exact h.flatMap_ofEntry_perm.map _

theorem decisions_ofMachine (h : IsJoined states ts) (start : String) :
    (Circuit.ofMachine states ts start).decisions.Perm
      (ts.edges.map fun t => (t.entry, t.flag, t.target)) := by
  have hlist : (Circuit.ofMachine states ts start).decisions =
      (states.numbered.flatMap fun e => ts.ofEntry e.1).map
        fun t => (t.entry, t.flag, t.target) := by
    rw [Circuit.decisions, Circuit.ofMachine, StateList.numbered, StateList.zipIdx_map_numberFrom,
      List.flatMap_map, List.map_flatMap]
    apply List.flatMap_congr
    intro e _
    dsimp only
    rw [h.fromPosition_eq, map_testsOf_edges fun flag target => ((e.1 : Int), flag, target)]
    apply List.map_congr_left
    intro t ht
    rw [of_decide_eq_true (List.mem_filter.1 ht).2]
  rw [hlist]
  exact h.flatMap_ofEntry_perm.map _

theorem shows_ofMachine {d : Definition} (h : IsJoined d.states d.transitions) (start : String) :
    (Circuit.ofMachine d.states d.transitions start).Shows d where
  entries := rfl
  members := rfl
  setterLabels := by
    rw [Circuit.ofMachine, List.map_map]
    exact StateList.map_snd_numbered d.states
  chooserLabels := by
    rw [Circuit.ofMachine, List.map_map]
    exact StateList.map_snd_numbered d.states
  set := by
    intro i arm harm
    obtain ⟨n, rfl⟩ := StateList.exists_of_getElem?_numbered harm
    exact congrArg _ (h.fromPosition_eq _)
  tested := by
    intro i arm harm
    obtain ⟨n, rfl⟩ := StateList.exists_of_getElem?_numbered harm
    rw [← h.fromPosition_eq]
    exact map_testsOf_edges (fun flag _ => flag) _
  targets := by
    intro i arm harm
    obtain ⟨n, rfl⟩ := StateList.exists_of_getElem?_numbered harm
    rw [← h.fromPosition_eq]
    exact map_testsOf_edges (fun _ target => target) _
  setOnce := assignments_ofMachine h start
  testedOnce := decisions_ofMachine h start

theorem isClosed_ofMachine (h : IsJoined states ts) {start : String}
    (hstart : states.reset? = some start) : (Circuit.ofMachine states ts start).IsClosed := by
  have hset : ((Circuit.ofMachine states ts start).assignments.map Prod.snd).Perm ts.flags := by
    have hperm := (assignments_ofMachine h start).map Prod.snd
    rw [List.map_map] at hperm
    exact hperm
  have htested : ((Circuit.ofMachine states ts start).decisions.map fun t => t.2.1).Perm
      ts.flags := by
    have hperm := (decisions_ofMachine h start).map fun t => t.2.1
    rw [List.map_map] at hperm
    exact hperm
  refine ⟨hset, htested, ?_, ?_, List.mem_of_mem_head? hstart, List.mem_of_mem_head? hstart⟩
  · intro t ht
    exact htested.mem_iff.1 (List.mem_map_of_mem ht)
  · intro t ht
    obtain ⟨u, hu, rfl⟩ := List.mem_map.1 ((decisions_ofMachine h start).mem_iff.1 ht)
    exact h.target u hu

end Machine

/-! ## Generated text -/

/-- What is generated is read back as a closed circuit that shows the machine. -/
theorem generated_code_is_closed {settings : Settings} {r : Request} {g : Generation}
    (h : r.generate settings = .ok g) :
    ∃ c, Circuit.read g.code = some c ∧ c.Shows g.definition ∧ c.IsClosed := by
  obtain ⟨start, haccepted⟩ := exists_accepted h
  exact ⟨_, haccepted.read_code, shows_ofMachine haccepted.joined start,
    isClosed_ofMachine haccepted.joined haccepted.reset⟩

/-- Two entries have one name, and all edges share one flag: the last edge stands
in the last arm alone. -/
theorem a_shared_flag_is_set_in_each_of_its_arms :
    ∃ g, Request.generate {} (.inline (some "A;1-2\na;a-A\nA;3-1")) = .ok g ∧
      ∃ c, Circuit.read g.code = some c ∧ c.entries = ["A", "a", "A"] ∧
        c.members = ["a2a", "a2a", "a2a"] ∧
        (∀ arm, c.setters[2]? = some arm → arm.2 = ["a2a"]) ∧ c.IsClosed := by
  obtain ⟨g, hg, hdefinition⟩ :
      ∃ g, Request.generate {} (.inline (some "A;1-2\na;a-A\nA;3-1")) = .ok g ∧
        g.definition =
          ⟨⟨["A", "a", "A"]⟩, ⟨[⟨"A", "a", 1⟩, ⟨"a", "A", 2⟩, ⟨"A", "A", 3⟩]⟩, .explicit⟩ :=
    ⟨_, rfl, rfl⟩
  obtain ⟨c, hread, hshows, hclosed⟩ := generated_code_is_closed hg
  rw [hdefinition] at hshows
  exact ⟨g, hg, c, hread, hshows.entries, hshows.members, hshows.set 2, hclosed⟩

end Hdl

end ThreeBlock
