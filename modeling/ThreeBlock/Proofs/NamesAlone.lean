-- Edges given by names alone. The entry that an edge records tells repeated names apart. Where
-- it is the first entry of its name, it says what the name says already: the review and the
-- text of a machine then hang on the names at the ends of its edges and on nothing else.
import ThreeBlock.Proofs.Hdl.Entering
import ThreeBlock.Proofs.Review.Search
namespace ThreeBlock

/-! ## Edges without their entries -/

/-- The edges between pairs of names, without their entries. -/
def TransitionSet.named (ps : List (String × String)) : TransitionSet :=
  ⟨ps.map fun p => ⟨p.1, p.2, 0⟩⟩

theorem pairs_named (ps : List (String × String)) : (TransitionSet.named ps).pairs = ps := by
  simp [TransitionSet.named, TransitionSet.pairs, Transition.ends, Function.comp_def]

theorem entry_of_mem_named {ps : List (String × String)} {t : Transition}
    (h : t ∈ (TransitionSet.named ps).edges) : t.entry = 0 := by
  obtain ⟨p, _, rfl⟩ := List.mem_map.1 h
  rfl

/-- A flag is made of the names at the ends of its edge. -/
theorem flags_congr {ts us : TransitionSet} (hpairs : us.pairs = ts.pairs) :
    us.flags = ts.flags := by
  have hflags : ∀ vs : TransitionSet, vs.flags = vs.pairs.map fun e => flagFor e.1 e.2 := by
    intro vs
    rw [TransitionSet.flags, TransitionSet.pairs, List.map_map]
    rfl
  rw [hflags, hflags, hpairs]

namespace Hdl.Declared

variable {states : StateList} {ts us : TransitionSet}

/-- A declared machine stays declared when its edges lose their entries. -/
theorem named_pairs (h : Declared states ts) : Declared states (.named ts.pairs) := by
  have hends : ∀ u ∈ (TransitionSet.named ts.pairs).edges,
      ∃ t ∈ ts.edges, u = ⟨t.source, t.target, 0⟩ := by
    intro u hu
    obtain ⟨p, hp, rfl⟩ := List.mem_map.1 hu
    obtain ⟨t, ht, rfl⟩ := List.mem_map.1 hp
    exact ⟨t, ht, rfl⟩
  refine ⟨h.nonempty, h.named, fun u hu => ?_, fun u hu => ?_,
    fun u hu => .inl (entry_of_mem_named hu)⟩
  · obtain ⟨t, ht, rfl⟩ := hends u hu
    exact h.source t ht
  · obtain ⟨t, ht, rfl⟩ := hends u hu
    exact h.target t ht

theorem fromPosition_eq (h : Declared states ts) (hdistinct : states.names.Nodup) {p : Int}
    {name : String} (hp : states.at? p = some name) :
    ts.fromPosition states p = ts.fromSource name := by
  rw [positionOf_of_at? hdistinct hp, h.fromPosition_positionOf]

/-! ## What hangs on the names -/

/-- The names at the ends of the edges of an entry. -/
theorem ends_fromPosition (h : Declared states ts) (p : Int) :
    (ts.fromPosition states p).map Transition.ends =
      ts.pairs.filter fun e => (states.positionOf e.1 : Int) = p := by
  have hfilter : ts.fromPosition states p =
      ts.edges.filter fun t => (states.positionOf t.source : Int) = p := by
    apply List.filter_congr
    intro t ht
    rw [h.leaves_eq ht]
  rw [hfilter, TransitionSet.pairs, List.filter_map]
  rfl

theorem ends_fromPosition_congr (hu : Declared states us) (ht : Declared states ts)
    (hpairs : us.pairs = ts.pairs) (p : Int) :
    (us.fromPosition states p).map Transition.ends =
      (ts.fromPosition states p).map Transition.ends := by
  rw [hu.ends_fromPosition, ht.ends_fromPosition, hpairs]

theorem armsOf_congr (hu : Declared states us) (ht : Declared states ts)
    (hpairs : us.pairs = ts.pairs) : armsOf states us = armsOf states ts := by
  have hbranches : ∀ es : List Transition, es.map Branch.ofTransition =
      (es.map Transition.ends).map fun e => ⟨flagFor e.1 e.2, e.2⟩ := by
    intro es
    rw [List.map_map]
    rfl
  apply List.map_congr_left
  intro e _
  rw [Arm.ofEntry, Arm.ofEntry, hbranches, hbranches, hu.ends_fromPosition_congr ht hpairs]

theorem deadEnds_congr (hu : Declared states us) (ht : Declared states ts)
    (hpairs : us.pairs = ts.pairs) (flavor : Flavor) :
    Report.deadEnds ⟨states, us, flavor⟩ = Report.deadEnds ⟨states, ts, flavor⟩ := by
  -- Whether an entry has edges shows in the names at their ends.
  have hnone : ∀ p : Int, us.fromPosition states p = [] ↔ ts.fromPosition states p = [] := by
    intro p
    rw [← List.map_eq_nil_iff (f := Transition.ends), hu.ends_fromPosition_congr ht hpairs,
      List.map_eq_nil_iff]
  simp only [Report.deadEnds, hnone]

/-- Declared machines with the same edges are written alike. -/
theorem render_congr (hu : Declared states us) (ht : Declared states ts)
    (hpairs : us.pairs = ts.pairs) (flavor : Flavor) (withMap : Bool) :
    render flavor withMap states us = render flavor withMap states ts := by
  rw [render, render, Document.ofMachine, Document.ofMachine, flags_congr hpairs,
    hu.armsOf_congr ht hpairs]

/-- Declared machines with the same edges are reviewed alike. -/
theorem review_congr (hu : Declared states us) (ht : Declared states ts)
    (hpairs : us.pairs = ts.pairs) (flavor : Flavor) (strict : Bool) :
    Report.review strict ⟨states, us, flavor⟩ = Report.review strict ⟨states, ts, flavor⟩ := by
  have hlost : ∀ start, unreachable states us start = unreachable states ts start :=
    fun start => unreachable_congr fun p => by rw [hpairs]
  simp only [Report.review, Report.withDeadEnds, Report.strictErrors, Report.repeatWarnings,
    flags_congr hpairs, hlost, hu.deadEnds_congr ht hpairs]

end Hdl.Declared

/-- In a machine without repeated states the recorded entries say nothing new: the edges given
by names alone are the same edges, and with them the review and the text of the machine stay
as they are. The edges of an entry are those of its name. -/
theorem entries_tell_repeated_names_apart {settings : Settings} {r : Request}
    {states : StateList} {ts : TransitionSet} {flavor : Flavor} {code : String}
    {warnings : List String} (h : r.generate settings = .ok ⟨⟨states, ts, flavor⟩, code, warnings⟩)
    (hdistinct : states.names.Nodup) :
    TransitionSet.sameAs (.named ts.pairs) ts = true ∧
      (∀ t ∈ (TransitionSet.named ts.pairs).edges, t.entry = 0) ∧
      (∀ flavor withMap, Hdl.render flavor withMap states (.named ts.pairs) =
        Hdl.render flavor withMap states ts) ∧
      (∀ flavor strict, Report.review strict ⟨states, .named ts.pairs, flavor⟩ =
        Report.review strict ⟨states, ts, flavor⟩) ∧
      ∀ p name, states.at? p = some name →
        ts.fromPosition states p = ts.fromSource name ∧
          (TransitionSet.named ts.pairs).fromPosition states p =
            (TransitionSet.named ts.pairs).fromSource name := by
  obtain ⟨start, haccepted⟩ := exists_accepted h
  have hdeclared : Hdl.Declared states ts := haccepted.joined.declared hdistinct
  have hnamed := hdeclared.named_pairs
  have hpairs := pairs_named ts.pairs
  exact ⟨decide_eq_true hpairs, fun t => entry_of_mem_named,
    hnamed.render_congr hdeclared hpairs, hnamed.review_congr hdeclared hpairs,
    fun p name hp => ⟨hdeclared.fromPosition_eq hdistinct hp, hnamed.fromPosition_eq hdistinct hp⟩⟩

/-- Both edges of a machine keep their arms without their entries. -/
theorem two_states_are_told_by_their_names :
    Hdl.render .explicit true ⟨["A", "B"]⟩ ⟨[⟨"B", "A", 0⟩, ⟨"A", "B", 0⟩]⟩ =
        Hdl.render .explicit true ⟨["A", "B"]⟩ ⟨[⟨"B", "A", 2⟩, ⟨"A", "B", 1⟩]⟩ ∧
      TransitionSet.fromPosition ⟨[⟨"B", "A", 2⟩, ⟨"A", "B", 1⟩]⟩ ⟨["A", "B"]⟩ 2 =
        [⟨"B", "A", 2⟩] := by
  obtain ⟨code, warnings, h⟩ : ∃ code warnings,
      Request.generate {} (.advanced (some "A;B") (some "2-1;1-2")) =
        .ok ⟨⟨⟨["A", "B"]⟩, ⟨[⟨"B", "A", 2⟩, ⟨"A", "B", 1⟩]⟩, .explicit⟩, code, warnings⟩ :=
    ⟨_, _, rfl⟩
  obtain ⟨_, _, hrender, _, hedges⟩ := entries_tell_repeated_names_apart h (by decide)
  exact ⟨hrender .explicit true, (hedges 2 "B" (by decide)).1⟩

end ThreeBlock
