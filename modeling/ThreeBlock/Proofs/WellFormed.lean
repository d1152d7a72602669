-- The form of what is accepted. Names and flags are identifiers, each edge leaves
-- the entry that it names and enters a declared state, and the edges stand as the
-- way of the request puts them: around the ring, from pairs, or line by line.
import ThreeBlock.CommandLine.Answer
import ThreeBlock.Proofs.Ring
namespace ThreeBlock

/-! ## Forms -/

/-- A machine whose names, edges and flags fit together. -/
structure Definition.WellFormed (d : Definition) : Prop where
  count : 2 ≤ d.states.size
  named : ∀ n ∈ d.states.names, isIdentifier n = true
  flagged : ∀ f ∈ d.transitions.flags, isIdentifier f = true
  inside : ∀ t ∈ d.transitions.edges, 1 ≤ t.entry ∧ t.entry ≤ d.states.size
  source : ∀ t ∈ d.transitions.edges, d.states.at? t.entry = some t.source
  target : ∀ t ∈ d.transitions.edges, t.target ∈ d.states.names

/-- As many edges as states: edge `i` leaves entry `i`, for the source of the edge
after it, and after the last edge comes the first. -/
structure IsRing (d : Definition) : Prop where
  count : d.transitions.edges.length = d.states.size
  step : ∀ i < d.states.size, ∃ t next, d.transitions.edges[i]? = some t ∧
    d.transitions.edges[(i + 1) % d.states.size]? = some next ∧
    t.entry = i + 1 ∧ t.target = next.source

/-- How the edges stand in the machine of a request. -/
def Request.Arranges : Request → Definition → Prop
  | .fast _, d => IsRing d
  | .advanced .., d => d.transitions.edges ≠ []
  | .inline _, d => d.transitions.edges.Pairwise fun t u => t.entry ≤ u.entry

/-- The report of a generation lists some flags. -/
def Reports (g : Generation) (flags : List String) : Prop :=
  (CommandLine.generationFields g).lookup "flags" = some (.texts flags)

/-! ## Joined machines -/

theorem IsJoined.wellFormed {states : StateList} {ts : TransitionSet} (h : IsJoined states ts)
    (flavor : Flavor) : Definition.WellFormed ⟨states, ts, flavor⟩ where
  count := h.count
  named := h.named
  flagged := by
    intro f hf
    obtain ⟨t, ht, rfl⟩ := List.mem_map.1 hf
    apply isIdentifier_flagFor
    · exact h.named _ (StateList.mem_of_at? (h.entry t ht))
    · exact h.named _ (h.target t ht)
  inside := by
    intro t ht
    obtain ⟨hpos, hle⟩ := h.source_in_range ht
    dsimp only
    rw [h.entry_eq ht]
    omega
  source := h.entry
  target := h.target

/-! ## The three ways -/

theorem isRing_ring {states : StateList} (h : 1 ≤ states.size) (flavor : Flavor) :
    IsRing ⟨states, .ring states, flavor⟩ where
  count := length_ring
  step := by
    dsimp only
    intro i hi
    have hnext : (i + 1) % states.size < (TransitionSet.ring states).edges.length := by
      rw [length_ring]
      exact Nat.mod_lt _ h
    have hlt : i < (TransitionSet.ring states).edges.length := by
      rw [length_ring]
      exact hi
    have hget := List.getElem?_eq_getElem hlt
    have hget' := List.getElem?_eq_getElem hnext
    obtain ⟨hentry, _, htarget⟩ := getElem?_ring hget
    obtain ⟨_, hsource, _⟩ := getElem?_ring hget'
    refine ⟨_, _, hget, hget', hentry, ?_⟩
    apply Option.some.inj
    rw [← htarget, ← hsource, getElem?_followers hi]
    by_cases hlast : i + 1 < states.names.length
    · rw [if_pos hlast, StateList.size, Nat.mod_eq_of_lt hlast]
    · have hwrap : i + 1 = states.size := by
        unfold StateList.size at *
        omega
      rw [if_neg hlast, hwrap, Nat.mod_self]

theorem length_of_collectStops {α : Type} {rs : List (Except Stop α)} {xs : List α}
    (h : collectStops rs = .ok xs) : xs.length = rs.length := by
  unfold collectStops at h
  split at h
  · cases h
  · exact (mapM_eq_ok_iff.1 h).length_eq.symm

theorem TransitionSet.length_ofPositions {states : StateList} {ps : List (Int × Int)}
    {ts : TransitionSet} (h : TransitionSet.ofPositions states ps = .ok ts) :
    ts.edges.length = ps.length := by
  obtain ⟨edges, hedges, rfl⟩ := map_eq_ok_iff.1 h
  exact (mapM_eq_ok_iff.1 hedges).length_eq.symm

/-- Every token of a text of pairs comes to one edge. -/
theorem TransitionSet.length_read {raw : String} {states : StateList} {ts : TransitionSet}
    (h : TransitionSet.read raw states = .ok ts) :
    pairTokens raw ≠ [] ∧ ts.edges.length = (pairTokens raw).length := by
  by_cases hne : pairTokens raw = []
  · rw [TransitionSet.read_of_verdict (by simp [hne]) (.empty hne)] at h
    cases h
  · rw [TransitionSet.read_of_tokens states hne] at h
    obtain ⟨ps, hps, h⟩ := bind_eq_ok_iff.1 h
    rw [length_ofPositions (mapError_eq_ok_iff.1 h), List.length_map, length_of_collectStops hps,
      List.length_map]
    exact ⟨hne, rfl⟩

/-- The lines of the tokens do not decrease. -/
theorem pairwise_occurrences (raw : String) :
    (occurrences raw).Pairwise fun u v => u.line ≤ v.line := by
  have hlines : ((inkedLines raw).zipIdx 1).Pairwise fun l m => l.2 < m.2 := by
    rw [← List.pairwise_map, List.zipIdx_map_snd]
    exact List.pairwise_lt_range'
  unfold occurrences
  rw [List.pairwise_flatMap]
  constructor
  · rintro ⟨line, i⟩ _
    rw [List.pairwise_map]
    exact List.pairwise_of_forall fun _ _ => Nat.le_refl i
  · refine hlines.imp ?_
    rintro ⟨line, i⟩ ⟨line', j⟩ hlt u hu v hv
    obtain ⟨_, _, rfl⟩ := List.mem_map.1 hu
    obtain ⟨_, _, rfl⟩ := List.mem_map.1 hv
    exact Nat.le_of_lt hlt

/-- The edges of declarations stand in the order of the lines. -/
theorem pairwise_readDeclarations {raw : String} {states : StateList} {ts : TransitionSet}
    (h : readDeclarations raw = .ok (states, ts)) :
    ts.edges.Pairwise fun t u => t.entry ≤ u.entry := by
  obtain ⟨hcount, hnamed⟩ := declaredNames_of_readDeclarations h
  rw [readDeclarations_of_isIdentifier hcount hnamed] at h
  obtain ⟨edges, hedges, hset⟩ := map_eq_ok_iff.1 h
  obtain ⟨rfl, rfl⟩ := Prod.mk.inj hset
  have hentries : edges.map Transition.entry = (occurrences raw).map fun u => (u.line : Int) := by
    symm
    rw [← List.forall₂_eq_eq_eq, List.forall₂_map_left_iff, List.forall₂_map_right_iff]
    refine (mapM_eq_ok_iff.1 hedges).imp ?_
    intro u t hread
    obtain ⟨_, hentry, _⟩ := Occurrence.of_read_eq_ok hread
    exact hentry.symm
  rw [← List.pairwise_map (f := Transition.entry), hentries, List.pairwise_map]
  exact (pairwise_occurrences raw).imp Int.ofNat_le.2

/-! ## What is accepted -/

theorem Request.arranges_of_read {r : Request} {d : Definition} (h : r.read.value = .ok d) :
    r.Arranges d := by
  cases r with
  | fast raw =>
    have hjoined := isJoined_of_read h
    rw [value_fast, map_eq_ok_iff] at h
    obtain ⟨states, _, rfl⟩ := h
    exact isRing_ring (Nat.le_of_succ_le hjoined.count) _
  | advanced raw spec =>
    rw [value_advanced, bind_eq_ok_iff] at h
    obtain ⟨states, _, h⟩ := h
    obtain ⟨ts, hedges, rfl⟩ := map_eq_ok_iff.1 h
    obtain ⟨hne, hlength⟩ := TransitionSet.length_read hedges
    intro hnil
    rw [hnil] at hlength
    exact hne (List.length_eq_zero_iff.1 hlength.symm)
  | inline raw =>
    rw [value_inline, map_eq_ok_iff] at h
    obtain ⟨p, hread, rfl⟩ := h
    exact pairwise_readDeclarations hread

/-- Whatever is accepted is well formed, its edges stand as the request puts them,
and its report has one flag for each edge, in their order. -/
theorem what_is_accepted_is_well_formed {r : Request} {settings : Settings} {g : Generation}
    (h : r.generate settings = .ok g) :
    g.definition.WellFormed ∧ r.Arranges g.definition ∧
      ∃ flags, Reports g flags ∧
        List.Forall₂ (fun t f => f = flagFor t.source t.target)
          g.definition.transitions.edges flags := by
  obtain ⟨hread, _⟩ := read_of_generate h
  refine ⟨(Request.isJoined_of_read hread).wellFormed _, Request.arranges_of_read hread,
    g.definition.transitions.flags, rfl, ?_⟩
  rw [TransitionSet.flags, List.forall₂_map_right_iff, List.forall₂_same]
  intro t _
  rfl

/-- A ring over a repeated name, and lines whose tokens come out of order. -/
theorem a_ring_and_two_lines_are_well_formed :
    (∃ g, Request.generate {} (.fast (some "IDLE; RUN ;IDLE")) = .ok g ∧
      g.definition.WellFormed ∧ IsRing g.definition ∧
        Reports g ["idle2run", "run2idle", "idle2idle"]) ∧
      ∃ g, Request.generate {} (.inline (some "A;1-02;A-A\nB;B-01")) = .ok g ∧
        g.definition.WellFormed ∧
          g.definition.transitions.edges.Pairwise (fun t u => t.entry ≤ u.entry) := by
  obtain ⟨g, hg, hflags⟩ :
      ∃ g, Request.generate {} (.fast (some "IDLE; RUN ;IDLE")) = .ok g ∧
        Reports g ["idle2run", "run2idle", "idle2idle"] := ⟨_, rfl, rfl⟩
  obtain ⟨g', hg'⟩ :
      ∃ g', Request.generate {} (.inline (some "A;1-02;A-A\nB;B-01")) = .ok g' := ⟨_, rfl⟩
  obtain ⟨hformed, hring, _⟩ := what_is_accepted_is_well_formed hg
  obtain ⟨hformed', hlines, _⟩ := what_is_accepted_is_well_formed hg'
  exact ⟨⟨g, hg, hformed, hring, hflags⟩, g', hg', hformed', hlines⟩

end ThreeBlock
