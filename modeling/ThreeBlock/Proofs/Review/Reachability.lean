-- The search of a review. It reaches a name just when a chain of edges leads
-- to it from the first name, so the states told as unreachable are those to
-- which no chain leads.
import Mathlib.Logic.Relation
import ThreeBlock.Proofs.Review.Repeats
namespace ThreeBlock

/-- An edge leads from one name to another. -/
def TransitionSet.Leads (ts : TransitionSet) (a b : String) : Prop :=
  ∃ t ∈ ts.edges, t.source = a ∧ t.target = b

theorem mem_leaving {n : String} {edges : List Transition} {t : Transition} :
    t ∈ leaving n edges ↔ t ∈ edges ∧ t.source = n := by
  simp [leaving]

theorem mem_leavingOthers {n : String} {edges : List Transition} {t : Transition} :
    t ∈ leavingOthers n edges ↔ t ∈ edges ∧ t.source ≠ n := by
  simp [leavingOthers]

theorem mem_newTargets {reached : List String} {edges : List Transition} {n : String} :
    n ∈ newTargets reached edges ↔ n ∉ reached ∧ ∃ t ∈ edges, t.target = n := by
  simp [newTargets, and_comm]

/-! ## The invariant of the search -/

/-- Where a search from `start` stands: the edges that were not followed, the
names reached, and those of them whose edges come next. -/
structure Searching (ts : TransitionSet) (start : String) (edges : List Transition)
    (reached frontier : List String) : Prop where
  begun : start ∈ reached
  sound : ∀ n ∈ reached, Relation.ReflTransGen ts.Leads start n
  within : ∀ n ∈ frontier, n ∈ reached
  known : ∀ t ∈ edges, t ∈ ts.edges
  followed : ∀ t ∈ ts.edges, t ∈ edges ∨ t.target ∈ reached
  ahead : ∀ t ∈ edges, t.source ∈ reached → t.source ∈ frontier

namespace Searching

variable {ts : TransitionSet} {start n : String} {edges : List Transition}
  {reached frontier : List String}

theorem initial (ts : TransitionSet) (start : String) :
    Searching ts start ts.edges [start] [start] where
  begun := List.mem_singleton_self start
  sound := by
    intro n hn
    rw [List.mem_singleton.1 hn]
  within _ hn := hn
  known _ ht := ht
  followed _ ht := Or.inl ht
  ahead _ _ hs := hs

/-- The edges out of one name are followed. -/
theorem step (h : Searching ts start edges reached (n :: frontier)) :
    Searching ts start (leavingOthers n edges) (reached ++ newTargets reached (leaving n edges))
      (newTargets reached (leaving n edges) ++ frontier) where
  begun := List.mem_append_left _ h.begun
  sound := by
    intro m hm
    rcases List.mem_append.1 hm with hm | hm
    · exact h.sound m hm
    · obtain ⟨_, t, ht, rfl⟩ := mem_newTargets.1 hm
      obtain ⟨ht, hsource⟩ := mem_leaving.1 ht
      have hn := h.sound n (h.within n List.mem_cons_self)
      exact hn.tail ⟨t, h.known t ht, hsource, rfl⟩
  within := by
    intro m hm
    rcases List.mem_append.1 hm with hm | hm
    · exact List.mem_append_right _ hm
    · exact List.mem_append_left _ (h.within m (List.mem_cons_of_mem _ hm))
  known t ht := h.known t (mem_leavingOthers.1 ht).1
  followed := by
    intro t ht
    rcases h.followed t ht with hleft | hreached
    · by_cases hsource : t.source = n
      · right
        by_cases hold : t.target ∈ reached
        · exact List.mem_append_left _ hold
        · have hnew := mem_newTargets.2 ⟨hold, t, mem_leaving.2 ⟨hleft, hsource⟩, rfl⟩
          exact List.mem_append_right _ hnew
      · exact Or.inl (mem_leavingOthers.2 ⟨hleft, hsource⟩)
    · exact Or.inr (List.mem_append_left _ hreached)
  ahead := by
    intro t ht hs
    obtain ⟨hleft, hsource⟩ := mem_leavingOthers.1 ht
    rcases List.mem_append.1 hs with hs | hs
    · -- the name was reached before, and its edges are not those just followed
      have hopen := (List.mem_cons.1 (h.ahead t hleft hs)).resolve_left hsource
      exact List.mem_append_right _ hopen
    · exact List.mem_append_left _ hs

/-- The search goes on until no name is left whose edges come next. -/
theorem run (h : Searching ts start edges reached frontier) :
    ∃ left, Searching ts start left (reachAlong edges reached frontier) [] := by
  induction edges, reached, frontier using reachAlong.induct with
  | case1 edges reached =>
    rw [reachAlong]
    exact ⟨edges, h⟩
  | case2 edges reached n frontier found ih =>
    rw [reachAlong]
    exact ih h.step

/-- At its end a search has reached all that an edge leads to. -/
theorem closed (h : Searching ts start edges reached []) {a b : String} (ha : a ∈ reached)
    (hab : ts.Leads a b) : b ∈ reached := by
  obtain ⟨t, ht, rfl, rfl⟩ := hab
  rcases h.followed t ht with hleft | hreached
  · cases h.ahead t hleft ha
  · exact hreached

end Searching

/-! ## What the search finds -/

theorem mem_reachedFrom {ts : TransitionSet} {start n : String} :
    n ∈ reachedFrom ts start ↔ Relation.ReflTransGen ts.Leads start n := by
  obtain ⟨left, hend⟩ := (Searching.initial ts start).run
  constructor
  · exact hend.sound n
  · intro hchain
    induction hchain with
    | refl => exact hend.begun
    | tail _ hab ih => exact hend.closed ih hab

theorem mem_unreachable {states : StateList} {ts : TransitionSet} {start n : String} :
    n ∈ unreachable states ts start ↔
      n ∈ states.names ∧ ¬ Relation.ReflTransGen ts.Leads start n := by
  simp [unreachable, mem_reachedFrom]

end ThreeBlock
