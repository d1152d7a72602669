-- The search of a review, turn by turn. A turn takes a name from the frontier and
-- looks at the edges that leave it: a target that was not reached before is reached,
-- and its own edges come later. Every search ends, in whatever order the names are
-- taken, and all searches end with the same names reached. So the states told are
-- those to which no chain of edges leads.
import Mathlib.Data.Finset.Card
import ThreeBlock.Proofs.Review.Reachability
namespace ThreeBlock

/-! ## Turns -/

/-- Where a search stands: the names reached, and those of them whose edges come
next. -/
structure Search where
  reached : List String
  frontier : List String

theorem TransitionSet.mem_fromSource {ts : TransitionSet} {n : String} {t : Transition} :
    t ∈ ts.fromSource n ↔ t ∈ ts.edges ∧ t.source = n := by
  simp [fromSource]

namespace Search

open TransitionSet (mem_fromSource)

/-- A search before its first turn. -/
def initial (start : String) : Search := ⟨[start], [start]⟩

/-- An edge is looked at. -/
def look (s : Search) (t : Transition) : Search :=
  if t.target ∈ s.reached then s else ⟨s.reached ++ [t.target], s.frontier ++ [t.target]⟩

/-- One turn: a name is taken from the frontier, wherever it stands, and the edges
that leave it are looked at in order. -/
inductive Turn (ts : TransitionSet) : Search → Search → Prop
  | take (reached before after : List String) (n : String) :
      Turn ts ⟨reached, before ++ n :: after⟩
        ((ts.fromSource n).foldl look ⟨reached, before ++ after⟩)

/-- Some turns, one after the other. -/
def Turns (ts : TransitionSet) : Search → Search → Prop := Relation.ReflTransGen (Turn ts)

theorem exists_turn_iff {ts : TransitionSet} {s : Search} :
    (∃ s', Turn ts s s') ↔ s.frontier ≠ [] := by
  constructor
  · rintro ⟨_, ⟨reached, before, after, n⟩⟩
    simp
  · obtain ⟨reached, frontier⟩ := s
    cases frontier with
    | nil => simp
    | cons n after => exact fun _ => ⟨_, .take reached [] after n⟩

/-! ## Edges looked at -/

theorem mem_reached_look {s : Search} {t : Transition} {m : String} :
    m ∈ (s.look t).reached ↔ m ∈ s.reached ∨ m = t.target := by
  unfold look
  split
  · next hold =>
    constructor
    · exact Or.inl
    · rintro (h | rfl)
      · exact h
      · exact hold
  · simp

theorem mem_frontier_look {s : Search} {t : Transition} {m : String} :
    m ∈ (s.look t).frontier ↔ m ∈ s.frontier ∨ m ∉ s.reached ∧ m = t.target := by
  unfold look
  split
  · next hold =>
    constructor
    · exact Or.inl
    · rintro (h | ⟨hnew, rfl⟩)
      · exact h
      · exact absurd hold hnew
  · next hnew =>
    rw [List.mem_append, List.mem_singleton]
    refine or_congr_right ⟨?_, And.right⟩
    rintro rfl
    exact ⟨hnew, rfl⟩

theorem mem_reached_foldl {edges : List Transition} {s : Search} {m : String} :
    m ∈ (edges.foldl look s).reached ↔ m ∈ s.reached ∨ ∃ t ∈ edges, m = t.target := by
  induction edges generalizing s with
  | nil => simp
  | cons t edges ih =>
    rw [List.foldl_cons, ih, mem_reached_look, or_assoc]
    simp

theorem mem_frontier_foldl {edges : List Transition} {s : Search} {m : String} :
    m ∈ (edges.foldl look s).frontier ↔
      m ∈ s.frontier ∨ m ∉ s.reached ∧ ∃ t ∈ edges, m = t.target := by
  induction edges generalizing s with
  | nil => simp
  | cons t edges ih =>
    rw [List.foldl_cons, ih, mem_frontier_look, mem_reached_look, or_assoc]
    refine or_congr_right ?_
    by_cases hm : m = t.target
    · simp [hm]
    · simp [hm]

/-! ## Every search ends -/

/-- How many turns a search still has: one for each name of the frontier, and one
for each target not reached yet. -/
def turnsLeft (ts : TransitionSet) (s : Search) : Nat :=
  s.frontier.length + ((ts.edges.map Transition.target).toFinset.filter (· ∉ s.reached)).card

theorem turnsLeft_look {ts : TransitionSet} {t : Transition} (ht : t ∈ ts.edges) (s : Search) :
    (s.look t).turnsLeft ts = s.turnsLeft ts := by
  unfold look
  split
  · rfl
  · next hnew =>
    -- the target leaves the names not reached, and joins the frontier
    have hmem : t.target ∈ (ts.edges.map Transition.target).toFinset.filter (· ∉ s.reached) := by
      simp only [Finset.mem_filter, List.mem_toFinset, List.mem_map]
      exact ⟨⟨t, ht, rfl⟩, hnew⟩
    have herase : (ts.edges.map Transition.target).toFinset.filter (· ∉ s.reached ++ [t.target]) =
        ((ts.edges.map Transition.target).toFinset.filter (· ∉ s.reached)).erase t.target := by
      ext m
      simp only [Finset.mem_filter, Finset.mem_erase, List.mem_append, List.mem_singleton, not_or]
      tauto
    have hcard := Finset.card_erase_add_one hmem
    unfold turnsLeft
    dsimp only
    rw [herase, List.length_append, List.length_singleton]
    omega

theorem turnsLeft_foldl {ts : TransitionSet} {edges : List Transition}
    (h : ∀ t ∈ edges, t ∈ ts.edges) (s : Search) :
    (edges.foldl look s).turnsLeft ts = s.turnsLeft ts := by
  induction edges generalizing s with
  | nil => rfl
  | cons t edges ih =>
    obtain ⟨ht, hedges⟩ := List.forall_mem_cons.1 h
    rw [List.foldl_cons, ih hedges, turnsLeft_look ht]

theorem turnsLeft_of_turn {ts : TransitionSet} {s s' : Search} (h : Turn ts s s') :
    s'.turnsLeft ts + 1 = s.turnsLeft ts := by
  obtain ⟨reached, before, after, n⟩ := h
  have hedges : ∀ t ∈ ts.fromSource n, t ∈ ts.edges := fun t ht => (mem_fromSource.1 ht).1
  rw [turnsLeft_foldl hedges]
  unfold turnsLeft
  dsimp only
  rw [List.length_append, List.length_append, List.length_cons]
  omega

/-- No search goes on for ever. -/
theorem wellFounded_turn (ts : TransitionSet) : WellFounded fun s' s => Turn ts s s' := by
  refine Subrelation.wf (r := InvImage (· < ·) (turnsLeft ts)) ?_ (InvImage.wf _ Nat.lt_wfRel.wf)
  intro s' s h
  have hleft := turnsLeft_of_turn h
  exact show s'.turnsLeft ts < s.turnsLeft ts by omega

theorem exists_turns_to_end (ts : TransitionSet) (s : Search) :
    ∃ s', Turns ts s s' ∧ s'.frontier = [] := by
  induction s using (wellFounded_turn ts).induction with
  | _ s ih =>
    by_cases hend : s.frontier = []
    · exact ⟨s, .refl, hend⟩
    · obtain ⟨next, hturn⟩ := exists_turn_iff.2 hend
      obtain ⟨s', hturns, hs'⟩ := ih next hturn
      exact ⟨s', .head hturn hturns, hs'⟩

/-! ## The invariant -/

/-- A search from `start`: what is reached can be reached, and an edge out of a name
reached leads to another, unless its turn is still to come. -/
structure Keeps (ts : TransitionSet) (start : String) (s : Search) : Prop where
  begun : start ∈ s.reached
  sound : ∀ n ∈ s.reached, Relation.ReflTransGen ts.Leads start n
  within : ∀ n ∈ s.frontier, n ∈ s.reached
  followed : ∀ t ∈ ts.edges, t.source ∈ s.reached →
    t.source ∈ s.frontier ∨ t.target ∈ s.reached

section Invariant

variable {ts : TransitionSet} {start : String} {s s' : Search}

theorem keeps_initial (ts : TransitionSet) (start : String) : (initial start).Keeps ts start where
  begun := List.mem_singleton_self start
  sound := by
    intro n hn
    rw [List.mem_singleton.1 hn]
  within _ hn := hn
  followed _ _ hs := Or.inl hs

theorem Keeps.turn (h : s.Keeps ts start) (hturn : Turn ts s s') : s'.Keeps ts start := by
  obtain ⟨reached, before, after, n⟩ := hturn
  have hn : n ∈ reached := h.within n (by simp)
  constructor
  · exact mem_reached_foldl.2 (Or.inl h.begun)
  · intro m hm
    rcases mem_reached_foldl.1 hm with hm | ⟨t, ht, rfl⟩
    · exact h.sound m hm
    · obtain ⟨hedge, hsource⟩ := mem_fromSource.1 ht
      exact (h.sound n hn).tail ⟨t, hedge, hsource, rfl⟩
  · intro m hm
    rcases mem_frontier_foldl.1 hm with hm | ⟨_, hm⟩
    · have hopen : m ∈ before ++ n :: after := by
        simp only [List.mem_append, List.mem_cons] at hm ⊢
        tauto
      exact mem_reached_foldl.2 (Or.inl (h.within m hopen))
    · exact mem_reached_foldl.2 (Or.inr hm)
  · intro t ht hsource
    by_cases hold : t.source ∈ reached
    · rcases h.followed t ht hold with hopen | htarget
      · by_cases htn : t.source = n
        · -- the edge was looked at in this turn
          exact Or.inr (mem_reached_foldl.2 (Or.inr ⟨t, mem_fromSource.2 ⟨ht, htn⟩, rfl⟩))
        · have hkept : t.source ∈ before ++ after := by
            simp only [List.mem_append, List.mem_cons] at hopen ⊢
            tauto
          exact Or.inl (mem_frontier_foldl.2 (Or.inl hkept))
      · exact Or.inr (mem_reached_foldl.2 (Or.inl htarget))
    · have hnew := (mem_reached_foldl.1 hsource).resolve_left hold
      exact Or.inl (mem_frontier_foldl.2 (Or.inr ⟨hold, hnew⟩))

theorem Keeps.turns (h : s.Keeps ts start) (hturns : Turns ts s s') : s'.Keeps ts start := by
  induction hturns with
  | refl => exact h
  | tail _ hturn ih => exact ih.turn hturn

/-- What is reached at the end is what chains of edges lead to. -/
theorem Keeps.mem_reached_iff (h : s.Keeps ts start) (hend : s.frontier = []) {n : String} :
    n ∈ s.reached ↔ Relation.ReflTransGen ts.Leads start n := by
  constructor
  · exact h.sound n
  · intro hchain
    induction hchain with
    | refl => exact h.begun
    | tail _ hlead ih =>
      obtain ⟨t, ht, rfl, rfl⟩ := hlead
      have hopen := h.followed t ht ih
      rw [hend] at hopen
      exact hopen.resolve_left List.not_mem_nil

end Invariant

end Search

/-! ## What is told -/

theorem distinct_filter (p : String → Bool) (names : List String) :
    distinct (names.filter p) = (distinct names).filter p := by
  induction names with
  | nil => rfl
  | cons n ns ih =>
    by_cases hn : p n = true
    · rw [List.filter_cons_of_pos hn, distinct, distinct, List.filter_cons_of_pos hn, ih,
        List.filter_comm]
    · have hnone : ∀ m ∈ (distinct ns).filter p, (fun m => decide (m ≠ n)) m = true := by
        intro m hm
        refine decide_eq_true ?_
        rintro rfl
        exact hn (List.mem_filter.1 hm).2
      rw [List.filter_cons_of_neg hn, ih, distinct, List.filter_cons_of_neg hn, List.filter_comm,
        List.filter_eq_self.2 hnone]

/-- Some names are those of a list to which no chain of edges leads, each once and in
the order in which they first occur. -/
structure AreLost (states : StateList) (ts : TransitionSet) (start : String)
    (told : List String) : Prop where
  mem : ∀ n, n ∈ told ↔ n ∈ states.names ∧ ¬ Relation.ReflTransGen ts.Leads start n
  once : told.Nodup
  ordered : told.Pairwise fun a b => states.names.idxOf a < states.names.idxOf b

theorem areLost_unreachable (states : StateList) (ts : TransitionSet) (start : String) :
    AreLost states ts start (unreachable states ts start) := by
  have hordered : (unreachable states ts start).Pairwise
      fun a b => states.names.idxOf a < states.names.idxOf b := by
    rw [unreachable, distinct_filter]
    exact (pairwise_distinct states.names).filter _
  refine ⟨fun n => mem_unreachable, hordered.imp ?_, hordered⟩
  rintro a _ hlt rfl
  exact absurd hlt (Nat.lt_irrefl _)

section Told

variable {states : StateList} {ts : TransitionSet} {start : String}

/-- What is told hangs on the chains of edges alone. -/
theorem unreachable_eq_of_mem_iff {reached : List String}
    (h : ∀ n, n ∈ reached ↔ Relation.ReflTransGen ts.Leads start n) :
    unreachable states ts start = distinct (states.names.filter fun n => n ∉ reached) := by
  rw [unreachable]
  congr 2
  funext n
  rw [decide_eq_decide, mem_reachedFrom, h n]

theorem leads_iff_mem_pairs {a b : String} : ts.Leads a b ↔ (a, b) ∈ ts.pairs := by
  simp [TransitionSet.Leads, TransitionSet.pairs, Transition.ends]

/-- Edges in another order, or repeated, change nothing. -/
theorem unreachable_congr {us : TransitionSet} (h : ∀ p, p ∈ us.pairs ↔ p ∈ ts.pairs) :
    unreachable states us start = unreachable states ts start := by
  have hleads : us.Leads = ts.Leads := by
    funext a b
    rw [eq_iff_iff, leads_iff_mem_pairs, leads_iff_mem_pairs, h]
  refine unreachable_eq_of_mem_iff fun n => ?_
  rw [hleads, mem_reachedFrom]

end Told

/-- Every search from the reset state ends, and the states told are those that it has
not reached: they are the states to which no chain of edges leads. The order of the
edges does not count, nor how often they stand there. -/
theorem every_search_ends_with_the_lost {d : Definition} (h : d.states.names ≠ []) :
    ∃ start, d.states.reset? = some start ∧
      (WellFounded fun s' s => Search.Turn d.transitions s s') ∧
      (∀ s, (∃ s', Search.Turn d.transitions s s') ↔ s.frontier ≠ []) ∧
      (∃ s, Search.Turns d.transitions (.initial start) s ∧ s.frontier = []) ∧
      (∀ s, Search.Turns d.transitions (.initial start) s → s.frontier = [] →
        unreachable d.states d.transitions start =
          distinct (d.states.names.filter fun n => n ∉ s.reached)) ∧
      AreLost d.states d.transitions start (unreachable d.states d.transitions start) ∧
      ∀ us : TransitionSet, (∀ p, p ∈ us.pairs ↔ p ∈ d.transitions.pairs) →
        unreachable d.states us start = unreachable d.states d.transitions start := by
  obtain ⟨start, hstart⟩ : ∃ start, d.states.reset? = some start :=
    Option.isSome_iff_exists.1 (List.isSome_head?.2 h)
  refine ⟨start, hstart, Search.wellFounded_turn _, fun s => Search.exists_turn_iff,
    Search.exists_turns_to_end _ _, ?_,
    areLost_unreachable _ _ _, fun us hpairs => unreachable_congr hpairs⟩
  intro s hturns hend
  have hkeeps := (Search.keeps_initial d.transitions start).turns hturns
  exact unreachable_eq_of_mem_iff fun n => hkeeps.mem_reached_iff hend

/-- A chain leads over a name that is no state, and two states that no chain leads to
have edges of their own. -/
theorem two_states_are_lost_behind_their_edges :
    unreachable ⟨["A", "B", "C", "A", "D", "C"]⟩
        ⟨[⟨"A", "X", 0⟩, ⟨"C", "C", 0⟩, ⟨"X", "B", 0⟩, ⟨"D", "A", 0⟩, ⟨"B", "A", 0⟩]⟩ "A" =
      ["C", "D"] := by
  obtain ⟨start, hstart, _, _, _, hend, _⟩ := every_search_ends_with_the_lost
    (d := ⟨⟨["A", "B", "C", "A", "D", "C"]⟩,
      ⟨[⟨"A", "X", 0⟩, ⟨"C", "C", 0⟩, ⟨"X", "B", 0⟩, ⟨"D", "A", 0⟩, ⟨"B", "A", 0⟩]⟩, .explicit⟩)
    (by decide)
  obtain rfl : "A" = start := Option.some.inj hstart
  refine (hend ⟨["A", "X", "B"], []⟩ ?_ rfl).trans (by decide)
  exact ((Relation.ReflTransGen.single (.take ["A"] [] [] "A")).tail
    (.take ["A", "X"] [] [] "X")).tail (.take ["A", "X", "B"] [] [] "B")

end ThreeBlock
