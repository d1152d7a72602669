-- A ring, and the pairs of positions that spell it. The pairs are read to the edges of
-- the ring, wrap-around and repeated names included. Every entry of a ring is left by
-- an edge, so the review says the same of both, and their texts differ in comments
-- alone.
import ThreeBlock.Proofs.Acceptance
import ThreeBlock.Proofs.Hdl.Flavors
namespace ThreeBlock

/-! ## The pairs of a ring -/

/-- The pairs of the ring over so many positions: each with the next, and the last
with the first. -/
def ringPairs (count : Nat) : List (Nat × Nat) :=
  (List.range' 1 (count - 1)).map (fun p => (p, p + 1)) ++ [(count, 1)]

theorem length_ringPairs {count : Nat} (h : 1 ≤ count) : (ringPairs count).length = count := by
  simp [ringPairs, h]

theorem getElem?_ringPairs {count i : Nat} (h : i < count) :
    (ringPairs count)[i]? = some (i + 1, if i + 1 < count then i + 2 else 1) := by
  rw [ringPairs]
  by_cases hi : i + 1 < count
  · rw [List.getElem?_append_left (by simp; omega), if_pos hi, List.getElem?_map,
      List.getElem?_range' (by omega)]
    simp [Nat.add_comm 1]
  · have hlast : i = count - 1 := by omega
    rw [List.getElem?_append_right (by simp; omega), if_neg hi, hlast]
    simp
    omega

theorem holds_ringPairs {states : StateList} (h : 1 ≤ states.size) :
    ∀ p ∈ ringPairs states.size, states.Holds p := by
  intro p hp
  rcases List.mem_append.1 hp with hp | hp
  · obtain ⟨i, hi, rfl⟩ := List.mem_map.1 hp
    rw [List.mem_range'_1] at hi
    exact ⟨⟨hi.1, by omega⟩, by omega, by omega⟩
  · rw [List.mem_singleton.1 hp]
    exact ⟨⟨h, Nat.le_refl _⟩, Nat.le_refl _, h⟩

theorem getElem?_followers {names : List String} {i : Nat} (h : i < names.length) :
    (followers names)[i]? = if i + 1 < names.length then names[i + 1]? else names[0]? := by
  rw [followers]
  by_cases hi : i + 1 < names.length
  · rw [List.getElem?_append_left (by simp; omega), if_pos hi, List.getElem?_tail]
  · rw [List.getElem?_append_right (by simp; omega), if_neg hi, List.length_tail]
    rw [List.getElem?_take, if_pos (by omega)]
    congr 1
    omega

section Ring

variable {states : StateList}

/-- What follows an entry on the ring stands at the next position, or at the first. -/
theorem at?_of_followers {i : Nat} {n : String} (hi : i < states.size)
    (h : (followers states.names)[i]? = some n) :
    states.at? (if i + 1 < states.size then i + 2 else 1 : Nat) = some n := by
  rw [getElem?_followers hi, ← StateList.size] at h
  split
  · next hnext =>
    rw [if_pos hnext] at h
    exact StateList.at?_eq_some_iff.2 ⟨i + 1, rfl, h⟩
  · next hlast =>
    rw [if_neg hlast] at h
    exact StateList.at?_eq_some_iff.2 ⟨0, rfl, h⟩

theorem length_ring : (TransitionSet.ring states).edges.length = states.size :=
  TransitionSet.ring_size states

/-- The pairs of a ring are those between which its edges run. -/
theorem ofPositions_ringPairs (h : 1 ≤ states.size) :
    TransitionSet.ofPositions states ((ringPairs states.size).map fun p => (↑p.1, ↑p.2)) =
      .ok (.ring states) := by
  have hedges : List.Forall₂ (fun p t => Transition.between states (↑p.1, ↑p.2) = .ok t)
      (ringPairs states.size) (TransitionSet.ring states).edges := by
    refine List.forall₂_iff_get.2 ⟨(length_ringPairs h).trans length_ring.symm, fun i hp ht => ?_⟩
    have hi : i < states.size := length_ring ▸ ht
    obtain ⟨hentry, hsource, htarget⟩ := getElem?_ring (List.getElem?_eq_getElem ht)
    have hpair := getElem?_ringPairs hi
    rw [List.getElem?_eq_getElem hp, Option.some.injEq] at hpair
    rw [List.get_eq_getElem, List.get_eq_getElem, hpair, Int.natCast_add, Int.natCast_one, ← hentry]
    apply Transition.between_of_at?
    · rw [hentry]
      exact StateList.at?_eq_some_iff.2 ⟨i, rfl, hsource⟩
    · exact at?_of_followers hi htarget
  rw [TransitionSet.ofPositions, List.mapM_map]
  exact congrArg (Except.map TransitionSet.mk) (mapM_eq_ok_iff.2 hedges)

/-! ## The review of a ring -/

theorem exists_mem_ring {p : Nat} {n : String} (h : (p, n) ∈ states.numbered) :
    ∃ t ∈ (TransitionSet.ring states).edges, t.entry = p := by
  obtain ⟨i, hi, hname⟩ := StateList.at?_eq_some_iff.1 (StateList.mem_numbered.1 h)
  have hlt : i < (TransitionSet.ring states).edges.length :=
    length_ring.symm ▸ (List.getElem?_eq_some_iff.1 hname).1
  have hget := List.getElem?_eq_getElem hlt
  exact ⟨_, List.mem_of_getElem? hget, (getElem?_ring hget).1.trans hi.symm⟩

/-- An edge leaves every entry of a ring. -/
theorem deadEnds_ring (flavor : Flavor) :
    Report.deadEnds ⟨states, .ring states, flavor⟩ = [] := by
  rw [Report.deadEnds, List.map_eq_nil_iff, List.filter_eq_nil_iff]
  rintro ⟨p, n⟩ he
  obtain ⟨t, ht, hentry⟩ := exists_mem_ring he
  have hleaves : t ∈ (TransitionSet.ring states).fromPosition states p := by
    refine List.mem_filter.2 ⟨ht, ?_⟩
    rw [leaves_of_at? (joins_of_mem_ring ht).1, hentry]
    simp
  simpa using List.ne_nil_of_mem hleaves

theorem startingIn_ring (states : StateList) (start : String) (strict : Bool)
    (flavor flavor' : Flavor) :
    Report.startingIn start strict ⟨states, .ring states, flavor⟩ =
      Report.startingIn start strict ⟨states, .ring states, flavor'⟩ := by
  have hnone : ∀ f warnings, Report.withDeadEnds ⟨states, .ring states, f⟩ warnings = warnings := by
    intro f warnings
    rw [Report.withDeadEnds, deadEnds_ring]
    cases f <;> rfl
  simp only [Report.startingIn, hnone]
  rfl

end Ring

/-! ## The text of a ring -/

namespace Hdl

/-- The flavor of a text shows in its comments alone. -/
theorem plainLines_flavor {states : StateList} {ts : TransitionSet} (h : Spelled states ts)
    {start : String} (hstart : states.reset? = some start) (flavor flavor' : Flavor)
    (withMap : Bool) :
    plainLines (Document.startingIn start flavor withMap states ts).text =
      plainLines (Document.startingIn start flavor' withMap states ts).text := by
  rw [plainLines_startingIn h hstart, plainLines_startingIn h hstart,
    plainOf_bodyLines_eq start flavor flavor' withMap withMap]

end Hdl

/-! ## Two ways to a ring -/

/-- Two machines written out that are the same, and whose texts differ in comments, spaces
at the end of a line and empty lines alone. -/
structure SameButComments (g g' : Generation) : Prop where
  states : g.definition.states = g'.definition.states
  edges : g.definition.transitions.edges = g'.definition.transitions.edges
  flags : g.definition.transitions.flags = g'.definition.transitions.flags
  warnings : g.warnings = g'.warnings
  code : Hdl.plainLines g.code = Hdl.plainLines g'.code

namespace Request

theorem value_read_ringPairs {raw : Option String} {states : StateList}
    (h : StateList.read (raw.getD "") = .ok states) (hsize : states.size < 10 ^ Text.numeralLimit) :
    (read (.advanced raw (some (pairsText (ringPairs states.size))))).value =
      .ok ⟨states, .ring states, .explicit⟩ := by
  have hcount : 2 ≤ states.size := (isJoined_of_states h fun t ht => joins_of_mem_ring ht).count
  have hpairs : TransitionSet.read (pairsText (ringPairs states.size)) states =
      .ok (.ring states) := by
    rw [TransitionSet.read_pairsText (by simp [ringPairs]) (holds_ringPairs (by omega)) hsize,
      ofPositions_ringPairs (by omega)]
    rfl
  rw [value_advanced_of_states h, Option.getD_some, hpairs]
  rfl

end Request

/-- A ring is refused for its states just as any request over them is. Else it is what
comes of the pairs that spell it: both are refused with one fault, or both are written
and differ in comments alone. -/
theorem a_ring_is_what_its_pairs_spell (settings : Settings) (raw : Option String) :
    (∀ f, StateList.read (raw.getD "") = .error f →
      Request.generate settings (.fast raw) = .error (.fault f) ∧
        ∀ spec, Request.generate settings (.advanced raw spec) = .error (.fault f)) ∧
    ∀ states, StateList.read (raw.getD "") = .ok states →
      states.size < 10 ^ Text.numeralLimit →
      (∃ f, Request.generate settings (.fast raw) = .error (.fault f) ∧
        Request.generate settings
          (.advanced raw (some (pairsText (ringPairs states.size)))) = .error (.fault f)) ∨
      ∃ g g', Request.generate settings (.fast raw) = .ok g ∧
        Request.generate settings
          (.advanced raw (some (pairsText (ringPairs states.size)))) = .ok g' ∧
        SameButComments g g' := by
  refine ⟨fun f hf => Request.generate_of_read_states_error hf settings, ?_⟩
  intro states hstates hsize
  have hfast : (Request.fast raw).read.value = .ok ⟨states, .ring states, .cyclic⟩ := by
    rw [Request.value_fast, hstates]
    rfl
  have hadvanced := Request.value_read_ringPairs hstates hsize
  have hspelled := (isJoined_of_states hstates fun t ht => joins_of_mem_ring ht).spelled
  obtain ⟨start, hstart⟩ := hspelled.exists_reset
  have hreport := startingIn_ring states start settings.strict .explicit .cyclic
  rw [Request.generate_of_read hfast, Request.generate_of_read hadvanced]
  cases herrors : (Report.startingIn start settings.strict
      ⟨states, .ring states, .cyclic⟩).errors with
  | cons f fs =>
    exact Or.inl ⟨f, Request.value_finish_of_error _ _ hstart herrors,
      Request.value_finish_of_error _ _ hstart (hreport ▸ herrors)⟩
  | nil =>
    refine Or.inr ⟨_, _, Request.value_finish_of_clean _ _ hstart herrors,
      Request.value_finish_of_clean _ _ hstart (hreport ▸ herrors), rfl, rfl, rfl, ?_, ?_⟩
    · rw [hreport]
    · exact Hdl.plainLines_flavor hspelled hstart _ _ _

/-- The third entry leads back to the first, also when both have one name. -/
theorem a_ring_over_a_repeated_name :
    (∀ spec, Request.generate {} (.advanced (some "A") spec) =
        .error (.fault (.insufficientStates 1))) ∧
      ∃ g g', Request.generate {} (.fast (some "A;B;A")) = .ok g ∧
        Request.generate {} (.advanced (some "A;B;A") (some "1-2;2-3;3-1")) = .ok g' ∧
        g'.definition.transitions.edges = [⟨"A", "B", 1⟩, ⟨"B", "A", 2⟩, ⟨"A", "A", 3⟩] ∧
        SameButComments g g' := by
  have hsize : StateList.size ⟨["A", "B", "A"]⟩ < 10 ^ Text.numeralLimit :=
    Text.lt_pow_numeralLimit (by decide)
  have hmet : ∃ g, Request.generate {} (.fast (some "A;B;A")) = .ok g := ⟨_, rfl⟩
  refine ⟨((a_ring_is_what_its_pairs_spell {} (some "A")).1 _ rfl).2, ?_⟩
  rcases (a_ring_is_what_its_pairs_spell {} (some "A;B;A")).2 ⟨["A", "B", "A"]⟩ rfl hsize with
    ⟨f, hf, _⟩ | ⟨g, g', hg, hg', hsame⟩
  · obtain ⟨g, hg⟩ := hmet
    rw [hf] at hg
    cases hg
  · have hedges : g.definition.transitions.edges =
        [⟨"A", "B", 1⟩, ⟨"B", "A", 2⟩, ⟨"A", "A", 3⟩] := by
      cases hg
      rfl
    exact ⟨g, g', hg, hg', hsame.edges ▸ hedges, hsame⟩

end ThreeBlock
