-- The states that a machine may enter. When no state and no flag is repeated,
-- every edge can be taken: it is enough that its flag is on and all others are
-- off. So the circuit of the text gets from the reset state to those states
-- that chains of edges reach, and the review tells of all others.
import ThreeBlock.Proofs.Hdl.Runs
import ThreeBlock.Proofs.Strictness
namespace ThreeBlock

/-! ## Machines without repeats -/

theorem positionOf_of_at? {states : StateList} {p : Int} {n : String}
    (hnodup : states.names.Nodup) (h : states.at? p = some n) : p = states.positionOf n := by
  obtain ⟨i, rfl, hi⟩ := StateList.at?_eq_some_iff.1 h
  obtain ⟨hlt, rfl⟩ := List.getElem?_eq_some_iff.1 hi
  rw [StateList.positionOf_of_mem (List.getElem_mem hlt), hnodup.idxOf_getElem]
  rfl

theorem IsJoined.declared {states : StateList} {ts : TransitionSet} (h : IsJoined states ts)
    (hnodup : states.names.Nodup) : Hdl.Declared states ts where
  nonempty := h.spelled.nonempty
  named := h.named
  source t ht := StateList.mem_of_at? (h.entry t ht)
  target := h.target
  entry t ht := Or.inr (positionOf_of_at? hnodup (h.entry t ht))

namespace TransitionSet

variable {ts : TransitionSet}

/-- With its flag on and all others off, an edge is taken. -/
theorem next_of_mem (hflags : ts.flags.Nodup) {t : Transition} (ht : t ∈ ts.edges) :
    ts.next t.source (fun flag => flag = t.flag) = t.target := by
  have hfind : (ts.fromSource t.source).find? (fun u => u.flag = t.flag) = some t := by
    cases hu : (ts.fromSource t.source).find? (fun u => u.flag = t.flag) with
    | none =>
      have hmem : t ∈ ts.fromSource t.source := List.mem_filter.2 ⟨ht, by simp⟩
      have hoff := List.find?_eq_none.1 hu t hmem
      simp at hoff
    | some u =>
      have hmem := (List.mem_filter.1 (List.mem_of_find?_eq_some hu)).1
      have hflag : u.flag = t.flag := by simpa using List.find?_some hu
      rw [List.inj_on_of_nodup_map hflags hmem ht hflag]
  rw [next, hfind]
  rfl

/-- A machine stays where it is, or an edge leads to its next state. -/
theorem eq_or_leads (ts : TransitionSet) (state : String) (value : String → Bool) :
    ts.next state value = state ∨ ts.Leads state (ts.next state value) := by
  unfold next
  cases hfind : (ts.fromSource state).find? fun t => value t.flag with
  | none => exact Or.inl rfl
  | some t =>
    obtain ⟨ht, hsource⟩ := List.mem_filter.1 (List.mem_of_find?_eq_some hfind)
    exact Or.inr ⟨t, ht, by simpa using hsource, rfl⟩

/-- Whatever the cycles bring, the machine follows edges. -/
theorem chain_of_run (ts : TransitionSet) (start : String) {ys : List Hdl.Cycle}
    (hys : ∀ y ∈ ys, y.running = true) (state : String) :
    Relation.ReflTransGen ts.Leads state (ys.foldl (ts.step start) state) := by
  induction ys generalizing state with
  | nil => exact .refl
  | cons y ys ih =>
    have hstep : ts.step start state y = ts.next state y.value :=
      if_pos (hys y List.mem_cons_self)
    have hrest := ih (fun z hz => hys z (List.mem_cons_of_mem _ hz)) (ts.step start state y)
    rw [List.foldl_cons]
    rcases ts.eq_or_leads state y.value with hstay | hlead
    · rw [hstep, hstay] at hrest ⊢
      exact hrest
    · rw [hstep] at hrest ⊢
      exact hrest.head hlead

/-- Along a chain of edges, one cycle for each edge takes the machine to its end. -/
theorem run_of_chain (ts : TransitionSet) (start : String) (hflags : ts.flags.Nodup)
    {state state' : String} (h : Relation.ReflTransGen ts.Leads state state') :
    ∃ ys : List Hdl.Cycle, (∀ y ∈ ys, y.running = true) ∧
      ys.foldl (ts.step start) state = state' := by
  induction h with
  | refl => exact ⟨[], by simp, rfl⟩
  | tail _ hlead ih =>
    obtain ⟨ys, hys, hrun⟩ := ih
    obtain ⟨t, ht, rfl, rfl⟩ := hlead
    refine ⟨ys ++ [⟨true, fun flag => flag = t.flag⟩], ?_, ?_⟩
    · intro y hy
      rcases List.mem_append.1 hy with hy | hy
      · exact hys y hy
      · rw [List.mem_singleton.1 hy]
    · rw [List.foldl_append, hrun]
      exact next_of_mem hflags ht

end TransitionSet

namespace Hdl

/-! ## Entering states -/

/-- Some clock cycles, with `rst_n` high in all of them, take a circuit from one
state to another. -/
def Circuit.Enters (c : Circuit) (state state' : String) : Prop :=
  ∃ ys : List Cycle, (∀ y ∈ ys, y.running = true) ∧ ys.foldl c.step state = state'

namespace Declared

variable {states : StateList} {ts : TransitionSet} {start : String}

/-- The circuit of a machine enters the states that chains of edges reach. -/
theorem enters_iff (h : Declared states ts) (hflags : ts.flags.Nodup)
    (hstart : start ∈ states.names) {state : String} :
    (Circuit.ofMachine states ts start).Enters start state ↔
      Relation.ReflTransGen ts.Leads start state := by
  constructor
  · rintro ⟨ys, hys, rfl⟩
    rw [h.foldl_eq hstart hstart]
    exact ts.chain_of_run start hys start
  · intro hchain
    obtain ⟨ys, hys, hrun⟩ := ts.run_of_chain start hflags hchain
    exact ⟨ys, hys, by rw [h.foldl_eq hstart hstart, hrun]⟩

end Declared

/-! ## Warnings and runs -/

/-- In strict mode, a state is told as unreachable just when no run of the text
enters it from the reset state without a reset. -/
theorem the_unreachable_are_never_entered {settings : Settings} {r : Request} {g : Generation}
    (hstrict : settings.strict = true) (h : r.generate settings = .ok g) :
    ∃ start c, g.definition.states.reset? = some start ∧ Circuit.read g.code = some c ∧
      c.reset = start ∧ ∀ n ∈ g.definition.states.names,
        (Report.notReached start n ∈ g.warnings ↔ ¬ c.Enters start n) := by
  obtain ⟨start, haccepted⟩ := exists_accepted h
  have hclean := haccepted.clean
  have hwarnings := haccepted.warnings
  rw [hstrict] at hclean hwarnings
  obtain ⟨hnames, hflags⟩ := strictErrors_eq_nil_iff.1 hclean
  have hstart := List.mem_of_mem_head? haccepted.reset
  refine ⟨start, _, haccepted.reset, haccepted.read_code, rfl, ?_⟩
  intro n hn
  rw [hwarnings, Report.notReached_mem_warnings haccepted.joined.named hn,
    (haccepted.joined.declared hnames).enters_iff hflags hstart]

/-- An edge leaves the lost state, but none enters it. -/
theorem a_lost_state_is_never_entered :
    ∃ g c, Request.generate { strict := true } (.advanced (some "A;B;C") (some "1-2;3-1;2-2")) =
        .ok g ∧ Circuit.read g.code = some c ∧ g.warnings = ["State C is unreachable from A"] ∧
      c.Enters "A" "B" ∧ ¬ c.Enters "A" "C" := by
  have hlost : (Report.startingIn "A" true ⟨⟨["A", "B", "C"]⟩,
      ⟨[⟨"A", "B", 1⟩, ⟨"C", "A", 3⟩, ⟨"B", "B", 2⟩]⟩, .explicit⟩).warnings =
        ["State C is unreachable from A"] := by
    have hfound : unreachable ⟨["A", "B", "C"]⟩
        ⟨[⟨"A", "B", 1⟩, ⟨"C", "A", 3⟩, ⟨"B", "B", 2⟩]⟩ "A" = ["C"] := by
      simp [unreachable, reachedFrom, reachAlong, newTargets, leaving, leavingOthers, distinct]
    rw [Report.startingIn, hfound]
    rfl
  obtain ⟨g, hg, hstates, hwarnings⟩ :
      ∃ g, Request.generate { strict := true } (.advanced (some "A;B;C") (some "1-2;3-1;2-2")) =
          .ok g ∧ g.definition.states = ⟨["A", "B", "C"]⟩ ∧
        g.warnings = ["State C is unreachable from A"] :=
    ⟨_, rfl, rfl, hlost⟩
  obtain ⟨start, c, hstart, hread, _, hiff⟩ := the_unreachable_are_never_entered rfl hg
  rw [hstates] at hstart hiff
  obtain rfl : "A" = start := Option.some.inj hstart
  rw [hwarnings] at hiff
  refine ⟨g, c, hg, hread, hwarnings, ?_, ?_⟩
  · exact not_not.1 (mt (hiff "B" (by decide)).2 (by decide))
  · exact (hiff "C" (by decide)).1 (by decide)

end Hdl

end ThreeBlock
