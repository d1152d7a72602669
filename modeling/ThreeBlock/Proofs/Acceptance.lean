-- What it takes for a request to be met. The machine that a request describes
-- joins its states, whatever the way it is described, so its review and its
-- text both exist; the request is met just when the review has no error.
import ThreeBlock.Proofs.Generate
import ThreeBlock.Proofs.Hdl.Machine
import ThreeBlock.Proofs.Reading.Faults
import ThreeBlock.Proofs.Review.Report
namespace ThreeBlock

/-! ## Machines that join their states -/

/-- An edge from the name at its entry to a name of the list. -/
def StateList.Joins (states : StateList) (t : Transition) : Prop :=
  states.at? t.entry = some t.source ∧ t.target ∈ states.names

theorem mem_of_mem_followers {names : List String} {n : String} (h : n ∈ followers names) :
    n ∈ names := by
  rcases List.mem_append.1 h with h | h
  · exact List.mem_of_mem_tail h
  · exact List.mem_of_mem_take h

theorem getElem?_ring {states : StateList} {i : Nat} {t : Transition}
    (h : (TransitionSet.ring states).edges[i]? = some t) :
    t.entry = i + 1 ∧ states.names[i]? = some t.source ∧
      (followers states.names)[i]? = some t.target := by
  rw [TransitionSet.ring, List.getElem?_zipWith_eq_some] at h
  obtain ⟨⟨p, source⟩, target, hentry, htarget, rfl⟩ := h
  rw [StateList.numbered, StateList.numberFrom_getElem?, Option.map_eq_some_iff] at hentry
  obtain ⟨n, hn, hpair⟩ := hentry
  obtain ⟨rfl, rfl⟩ := Prod.mk.inj hpair
  exact ⟨by rw [Nat.add_comm]; rfl, hn, htarget⟩

theorem joins_of_mem_ring {states : StateList} {t : Transition}
    (h : t ∈ (TransitionSet.ring states).edges) : states.Joins t := by
  obtain ⟨i, hi⟩ := List.mem_iff_getElem?.1 h
  obtain ⟨hentry, hsource, htarget⟩ := getElem?_ring hi
  exact ⟨StateList.at?_eq_some_iff.2 ⟨i, hentry, hsource⟩,
    mem_of_mem_followers (List.mem_of_getElem? htarget)⟩

theorem joins_of_between {states : StateList} {p : Int × Int} {t : Transition}
    (h : Transition.between states p = .ok t) : states.Joins t := by
  unfold Transition.between at h
  split at h
  · cases h
  · next source hsource =>
    split at h
    · cases h
    · next target htarget =>
      cases h
      exact ⟨StateList.nameAt_eq_ok_iff.1 hsource,
        StateList.mem_of_at? (StateList.nameAt_eq_ok_iff.1 htarget)⟩

theorem joins_of_mem_ofPositions {states : StateList} {ps : List (Int × Int)} {ts : TransitionSet}
    (h : TransitionSet.ofPositions states ps = .ok ts) {t : Transition} (ht : t ∈ ts.edges) :
    states.Joins t := by
  obtain ⟨edges, hedges, rfl⟩ := map_eq_ok_iff.1 h
  obtain ⟨p, _, hp⟩ := exists_of_mapM_eq_ok hedges t ht
  exact joins_of_between hp

theorem joins_of_mem_read {raw : String} {states : StateList} {ts : TransitionSet}
    (h : TransitionSet.read raw states = .ok ts) {t : Transition} (ht : t ∈ ts.edges) :
    states.Joins t := by
  unfold TransitionSet.read at h
  split at h
  · cases h
  · split at h
    · cases h
    · exact joins_of_mem_ofPositions (mapError_eq_ok_iff.1 h) ht

/-- A state list that was read, with edges that join its entries. -/
theorem isJoined_of_states {raw : String} {states : StateList} {ts : TransitionSet}
    (hstates : StateList.read raw = .ok states) (hedges : ∀ t ∈ ts.edges, states.Joins t) :
    IsJoined states ts := by
  obtain ⟨hcount, hnamed, rfl⟩ := StateList.ofNames_eq_ok_iff.1 hstates
  exact ⟨hcount, hnamed, fun t ht => (hedges t ht).1, fun t ht => (hedges t ht).2⟩

theorem IsJoined.spelled {states : StateList} {ts : TransitionSet} (h : IsJoined states ts) :
    Hdl.Spelled states ts where
  nonempty := by
    intro hnil
    have hcount := h.count
    rw [StateList.size, hnil] at hcount
    simp at hcount
  named := h.named
  source t ht := h.named _ (StateList.mem_of_at? (h.entry t ht))
  target t ht := h.named _ (h.target t ht)

/-! ## Errors of a review -/

/-- Only a strict review has errors. -/
theorem Report.isStrict_of_mem_errors {start : String} {strict : Bool} {d : Definition} {f : Fault}
    (h : f ∈ (Report.startingIn start strict d).errors) : strict = true ∧ f.isStrict = true := by
  cases strict with
  | false => cases h
  | true =>
    refine ⟨rfl, ?_⟩
    rcases List.mem_append.1 h with hmem | hmem
    · split at hmem
      · cases hmem
      · obtain rfl := List.mem_singleton.1 hmem
        rfl
    · split at hmem
      · cases hmem
      · obtain rfl := List.mem_singleton.1 hmem
        rfl

/-! ## Machines of requests -/

namespace Request

/-- The machine of a request joins its states. -/
theorem isJoined_of_read {r : Request} {d : Definition} (h : r.read.value = .ok d) :
    IsJoined d.states d.transitions := by
  cases r with
  | fast raw =>
    rw [value_fast, map_eq_ok_iff] at h
    obtain ⟨states, hstates, rfl⟩ := h
    exact isJoined_of_states (mapError_eq_ok_iff.1 hstates) fun t ht => joins_of_mem_ring ht
  | advanced raw spec =>
    rw [value_advanced, bind_eq_ok_iff] at h
    obtain ⟨states, hstates, h⟩ := h
    obtain ⟨ts, hedges, rfl⟩ := map_eq_ok_iff.1 h
    exact isJoined_of_states (mapError_eq_ok_iff.1 hstates) fun t ht => joins_of_mem_read hedges ht
  | inline raw =>
    rw [value_inline, map_eq_ok_iff] at h
    obtain ⟨p, hread, rfl⟩ := h
    exact isJoined_of_readDeclarations hread

/-! ## Review and text -/

section Finish

variable {d : Definition} {start : String}

/-- A machine whose review has no error is written. -/
theorem value_finish_of_clean (mode : String) (settings : Settings)
    (hstart : d.states.reset? = some start)
    (hclean : (Report.startingIn start settings.strict d).errors = []) :
    (finish mode settings d).value =
      .ok ⟨d, (Hdl.Document.startingIn start d.flavor settings.stateMap d.states
        d.transitions).text, (Report.startingIn start settings.strict d).warnings⟩ := by
  have hrender := Hdl.render_eq_ok hstart d.flavor settings.stateMap d.transitions
  exact (takes_finish (Report.review_eq_ok hstart _) hclean (takes_write hrender)).value_eq

/-- The first error of its review refuses a machine. -/
theorem value_finish_of_error (mode : String) (settings : Settings)
    (hstart : d.states.reset? = some start) {f : Fault} {fs : List Fault}
    (herror : (Report.startingIn start settings.strict d).errors = f :: fs) :
    (finish mode settings d).value = .error (.fault f) := by
  exact (takes_finish_error (Report.review_eq_ok hstart _) herror).value_eq

end Finish

/-! ## Requests -/

/-- Names that are refused stop every request that has them. -/
theorem generate_of_read_states_error {raw : Option String} {f : Fault}
    (h : StateList.read (raw.getD "") = .error f) (settings : Settings) :
    generate settings (.fast raw) = .error (.fault f) ∧
      ∀ spec, generate settings (.advanced raw spec) = .error (.fault f) := by
  constructor
  · apply generate_of_read_error
    rw [value_fast, h]
    rfl
  · intro spec
    apply generate_of_read_error
    rw [value_advanced, h]
    rfl

end Request

/-- What a request that was met gives: a machine that joins its states and starts
in one of them, whose review has no error, with its text and its warnings. -/
structure Accepted (settings : Settings) (g : Generation) (start : String) : Prop where
  joined : IsJoined g.definition.states g.definition.transitions
  reset : g.definition.states.reset? = some start
  clean : (Report.startingIn start settings.strict g.definition).errors = []
  code : g.code = (Hdl.Document.startingIn start g.definition.flavor settings.stateMap
    g.definition.states g.definition.transitions).text
  warnings : g.warnings = (Report.startingIn start settings.strict g.definition).warnings

/-- A request that is met was read to a machine that was accepted. -/
theorem read_of_generate {r : Request} {settings : Settings} {g : Generation}
    (h : r.generate settings = .ok g) :
    r.read.value = .ok g.definition ∧ ∃ start, Accepted settings g start := by
  cases hread : r.read.value with
  | error s =>
    rw [Request.generate_of_read_error hread] at h
    cases h
  | ok d =>
    have hjoined := Request.isJoined_of_read hread
    obtain ⟨start, hstart⟩ := hjoined.spelled.exists_reset
    rw [Request.generate_of_read hread] at h
    cases herrors : (Report.startingIn start settings.strict d).errors with
    | cons f fs =>
      rw [Request.value_finish_of_error _ _ hstart herrors] at h
      cases h
    | nil =>
      rw [Request.value_finish_of_clean _ _ hstart herrors] at h
      cases h
      exact ⟨rfl, start, hjoined, hstart, herrors, rfl, rfl⟩

theorem exists_accepted {r : Request} {settings : Settings} {g : Generation}
    (h : r.generate settings = .ok g) : ∃ start, Accepted settings g start :=
  (read_of_generate h).2

/-- The text of an accepted machine spells its circuit. -/
theorem Accepted.read_code {settings : Settings} {g : Generation} {start : String}
    (h : Accepted settings g start) :
    Hdl.Circuit.read g.code =
      some (Hdl.Circuit.ofMachine g.definition.states g.definition.transitions start) := by
  rw [h.code, h.joined.spelled.read_text h.reset]

end ThreeBlock
