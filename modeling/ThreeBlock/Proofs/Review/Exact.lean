-- What a report says, told by the machine alone. The errors are the repeats, and only in
-- strict mode. The warnings are the repeats otherwise, then the states to which no chain
-- of edges leads, then the names with an entry that no edge leaves; none of them stands
-- there twice, and those behind the repeats do not hang on the mode.
import ThreeBlock.Proofs.Review.Report
import ThreeBlock.Proofs.Review.Search
namespace ThreeBlock

/-! ## Entries that nothing leaves -/

/-- The entry at a position bears a name, and no edge leaves it. -/
def Definition.IsStuck (d : Definition) (p : Nat) (n : String) : Prop :=
  d.states.at? p = some n ∧ ∀ t ∈ d.transitions.edges, t.leaves d.states ≠ p

/-- Some names are those of the entries that nothing leaves, each once, in the order of
the first such entry of each. -/
structure AreStuck (d : Definition) (told : List String) : Prop where
  mem : ∀ n, n ∈ told ↔ ∃ p, d.IsStuck p n
  once : told.Nodup
  ordered : told.Pairwise fun a b => ∃ p, d.IsStuck p a ∧ ∀ q, d.IsStuck q b → p < q

/-- The entries that nothing leaves. -/
def stuckEntries (d : Definition) : List (Nat × String) :=
  d.states.numbered.filter fun e => d.transitions.fromPosition d.states e.1 = []

theorem mem_stuckEntries {d : Definition} {p : Nat} {n : String} :
    (p, n) ∈ stuckEntries d ↔ d.IsStuck p n := by
  rw [stuckEntries, List.mem_filter, StateList.mem_numbered, decide_eq_true_eq,
    TransitionSet.fromPosition, List.filter_eq_nil_iff]
  simp [Definition.IsStuck]

theorem pairwise_numbered (states : StateList) :
    states.numbered.Pairwise fun e f => e.1 < f.1 := by
  rw [← List.pairwise_map (f := Prod.fst), StateList.map_fst_numbered]
  exact List.pairwise_lt_range'

/-- Of two names among ordered entries, the one met first has an entry before all those
of the other. -/
theorem exists_entry_before {es : List (Nat × String)} (hes : es.Pairwise fun e f => e.1 < f.1)
    {a b : String} (h : (es.map Prod.snd).idxOf a < (es.map Prod.snd).idxOf b) :
    ∃ p, (p, a) ∈ es ∧ ∀ q, (q, b) ∈ es → p < q := by
  induction es with
  | nil => simp at h
  | cons e es ih =>
    obtain ⟨hhead, htail⟩ := List.pairwise_cons.1 hes
    rw [List.map_cons, List.idxOf_cons, List.idxOf_cons] at h
    by_cases hb : e.2 = b
    · simp [hb] at h
    · have hrest : ∀ q, (q, b) ∈ e :: es → (q, b) ∈ es := by
        intro q hq
        refine (List.mem_cons.1 hq).resolve_left ?_
        rintro rfl
        exact hb rfl
      by_cases ha : e.2 = a
      · exact ⟨e.1, by simp [← ha], fun q hq => hhead _ (hrest q hq)⟩
      · simp only [beq_false_of_ne ha, beq_false_of_ne hb, cond_false] at h
        obtain ⟨p, hp, hbefore⟩ := ih htail (by omega)
        exact ⟨p, List.mem_cons_of_mem _ hp, fun q hq => hbefore q (hrest q hq)⟩

theorem areStuck_deadEnds (d : Definition) : AreStuck d (distinct (Report.deadEnds d)) := by
  have hentries : Report.deadEnds d = (stuckEntries d).map Prod.snd := rfl
  refine ⟨fun n => ?_, nodup_distinct _, ?_⟩
  · rw [mem_distinct, hentries, List.mem_map]
    simp [← mem_stuckEntries]
  · refine (pairwise_distinct _).imp fun hlt => ?_
    simp only [← mem_stuckEntries]
    exact exists_entry_before ((pairwise_numbered d.states).filter _) hlt

/-! ## Warnings added once -/

theorem distinct_map {f : String → String} (hf : f.Injective) (names : List String) :
    distinct (names.map f) = (distinct names).map f := by
  induction names with
  | nil => rfl
  | cons n ns ih =>
    rw [List.map_cons, distinct, distinct, ih, List.map_cons, List.filter_map]
    congr 2
    exact List.filter_congr fun m _ => by simp [hf.eq_iff]

namespace Report

/-- What is added once comes to the first occurrences of what was not there. -/
theorem foldl_addOnce (more warnings : List String) :
    more.foldl addOnce warnings = warnings ++ distinct (more.filter fun w => w ∉ warnings) := by
  induction more generalizing warnings with
  | nil => simp [distinct]
  | cons w more ih =>
    rw [List.foldl_cons, ih, addOnce]
    by_cases hw : w ∈ warnings
    · simp [hw]
    · have hleft : (more.filter fun v => v ∉ warnings ++ [w]) =
          (more.filter fun v => v ∉ warnings).filter fun v => v ≠ w := by
        rw [List.filter_filter]
        exact List.filter_congr fun v _ => by simp [and_comm]
      rw [if_neg hw, hleft, distinct_filter, List.filter_cons_of_pos (by simpa using hw), distinct,
        List.append_assoc, List.singleton_append]

theorem noWayOut_injective {a b : String} (h : noWayOut a = noWayOut b) : a = b := by
  have hlist := congrArg String.toList h
  simp only [noWayOut, String.toList_append, List.append_assoc, List.append_cancel_left_eq,
    List.append_cancel_right_eq] at hlist
  exact String.toList_inj.1 hlist

section Lines

variable {d : Definition} {w : String}

/-- A line for the repeated states and one for the repeated flags, where there are any. -/
def onRepeats {α : Type} (d : Definition) (states flags : α) : List α :=
  (if d.states.names.Nodup then [] else [states]) ++
    (if d.transitions.flags.Nodup then [] else [flags])

theorem strictErrors_eq_onRepeats (d : Definition) :
    strictErrors d = onRepeats d (.duplicateStates (repeated d.states.names))
      (.duplicateFlags (repeated d.transitions.flags)) := by
  simp only [strictErrors, onRepeats, repeated_eq_nil_iff]

theorem repeatWarnings_eq_onRepeats (d : Definition) :
    repeatWarnings d = onRepeats d (repeatedStates (repeated d.states.names))
      (repeatedFlags (repeated d.transitions.flags)) := by
  simp only [repeatWarnings, onRepeats, repeated_eq_nil_iff]

/-- The first letter tells the warnings about repeats from the others. -/
theorem getElem?_of_mem_onRepeats {names flags : List String}
    (h : w ∈ onRepeats d (repeatedStates names) (repeatedFlags flags)) :
    w.toList[0]? = some 'D' := by
  have hcases : w = repeatedStates names ∨ w = repeatedFlags flags := by
    unfold onRepeats at h
    split at h <;> split at h <;> simp_all
  rcases hcases with rfl | rfl
  · unfold repeatedStates
    simp
  · unfold repeatedFlags
    simp

theorem nodup_onRepeats (d : Definition) (names flags : List String) :
    (onRepeats d (repeatedStates names) (repeatedFlags flags)).Nodup := by
  have hne : repeatedStates names ≠ repeatedFlags flags := by
    intro h
    have hplace := congrArg (fun l : String => l.toList[10]?) h
    unfold repeatedStates repeatedFlags at hplace
    simp at hplace
  unfold onRepeats
  split <;> split <;> simp [hne]

end Lines

/-- What a report says of a machine that starts in a state: the repeated names and flags,
the lost states, and the stuck ones. -/
structure Says (r : Report) (strict : Bool) (d : Definition) (start : String)
    (names flags lost stuck : List String) : Prop where
  errors : r.errors =
    if strict then onRepeats d (.duplicateStates names) (.duplicateFlags flags) else []
  warnings : r.warnings =
    (if strict then [] else onRepeats d (repeatedStates names) (repeatedFlags flags)) ++
      lost.map (notReached start) ++
      (if d.flavor = .explicit then stuck.map noWayOut else [])
  once : r.warnings.Nodup

/-- Warnings about dead ends are added once, behind all others. -/
theorem withDeadEnds_eq {d : Definition} {warnings : List String}
    (h : ∀ n ∈ deadEnds d, noWayOut n ∉ warnings) :
    withDeadEnds d warnings = warnings ++
      if d.flavor = .explicit then (distinct (deadEnds d)).map noWayOut else [] := by
  unfold withDeadEnds
  cases d.flavor with
  | cyclic => simp
  | explicit =>
    have hnew : ((deadEnds d).map noWayOut).filter (fun w => w ∉ warnings) =
        (deadEnds d).map noWayOut := by
      rw [List.filter_eq_self]
      intro w hw
      obtain ⟨n, hn, rfl⟩ := List.mem_map.1 hw
      simpa using h n hn
    rw [foldl_addOnce, hnew, distinct_map fun _ _ => noWayOut_injective]
    simp

section Exact

variable {d : Definition} {start : String}

/-- A warning about a dead end stands nowhere among the others. -/
theorem noWayOut_not_mem (hnames : ∀ n ∈ d.states.names, isIdentifier n = true) (strict : Bool)
    {n : String} (hn : n ∈ d.states.names) {names flags : List String} :
    noWayOut n ∉ (if strict then [] else onRepeats d (repeatedStates names) (repeatedFlags flags)) ++
      (unreachable d.states d.transitions start).map (notReached start) := by
  intro hmem
  rcases List.mem_append.1 hmem with hmem | hmem
  · split at hmem
    · cases hmem
    · have hfirst := getElem?_of_mem_onRepeats hmem
      unfold noWayOut at hfirst
      simp at hfirst
  · obtain ⟨m, hm, heq⟩ := List.mem_map.1 hmem
    exact notReached_ne_noWayOut start (hnames m (mem_unreachable.1 hm).1) (hnames n hn) heq

theorem notReached_not_mem_onRepeats {names flags : List String} (n : String) :
    notReached start n ∉ onRepeats d (repeatedStates names) (repeatedFlags flags) := by
  intro hmem
  have hfirst := getElem?_of_mem_onRepeats hmem
  unfold notReached at hfirst
  simp at hfirst

theorem says_startingIn (hnames : ∀ n ∈ d.states.names, isIdentifier n = true) (strict : Bool) :
    Says (startingIn start strict d) strict d start (repeated d.states.names)
      (repeated d.transitions.flags) (unreachable d.states d.transitions start)
      (distinct (deadEnds d)) := by
  have hwarnings : (startingIn start strict d).warnings = _ := withDeadEnds_eq fun n hn =>
    repeatWarnings_eq_onRepeats d ▸ noWayOut_not_mem hnames strict (mem_of_mem_deadEnds hn)
  refine ⟨?_, ?_, ?_⟩
  · rw [← strictErrors_eq_onRepeats]
    rfl
  · rw [hwarnings, repeatWarnings_eq_onRepeats]
  · rw [hwarnings, repeatWarnings_eq_onRepeats]
    refine List.nodup_append.2 ⟨List.nodup_append.2 ⟨?_, ?_, ?_⟩, ?_, ?_⟩
    · split
      · exact List.nodup_nil
      · exact nodup_onRepeats d _ _
    · exact (areLost_unreachable _ _ _).once.map fun _ _ => notReached_injective
    · rintro _ hw v hv rfl
      obtain ⟨n, _, rfl⟩ := List.mem_map.1 hv
      split at hw
      · cases hw
      · exact notReached_not_mem_onRepeats n hw
    · split
      · exact (nodup_distinct _).map fun _ _ => noWayOut_injective
      · exact List.nodup_nil
    · rintro _ hw v hv rfl
      split at hv
      · obtain ⟨n, hn, rfl⟩ := List.mem_map.1 hv
        exact noWayOut_not_mem hnames strict (mem_of_mem_deadEnds (mem_distinct.1 hn)) hw
      · cases hv

end Exact

end Report

/-- The report on a machine tells its repeats, its lost states and its stuck ones, each of
them once. Only what it makes of the repeats hangs on the mode. -/
theorem the_report_is_exact {d : Definition} (hnonempty : d.states.names ≠ [])
    (hnames : ∀ n ∈ d.states.names, isIdentifier n = true) :
    ∃ start names flags lost stuck,
      d.states.reset? = some start ∧ AreRepeats d.states.names names ∧
      AreRepeats d.transitions.flags flags ∧ AreLost d.states d.transitions start lost ∧
      AreStuck d stuck ∧
      ∀ strict, ∃ r, Report.review strict d = .ok r ∧
        r.Says strict d start names flags lost stuck := by
  obtain ⟨start, hstart⟩ : ∃ start, d.states.reset? = some start :=
    ⟨_, List.head?_eq_some_head hnonempty⟩
  exact ⟨start, _, _, _, _, hstart, areRepeats_repeated _, areRepeats_repeated _,
    areLost_unreachable _ _ _, areStuck_deadEnds d,
    fun strict => ⟨_, Report.review_eq_ok hstart strict, Report.says_startingIn hnames strict⟩⟩

/-- A repeated name of which only the first entry is left, by two edges with one flag, and
two names that no chain reaches. -/
theorem a_second_entry_is_told_as_stuck :
    ∃ r, Report.review false ⟨⟨["A", "B", "B", "C", "D"]⟩,
        ⟨[⟨"A", "B", 0⟩, ⟨"A", "B", 1⟩, ⟨"B", "A", 3⟩, ⟨"C", "A", 4⟩]⟩, .explicit⟩ = .ok r ∧
      r.errors = [] ∧ r.warnings.Nodup ∧
      r.warnings = ["Duplicate state names: B", "Duplicate transition flags: a2b",
        "State C is unreachable from A", "State D is unreachable from A",
        "State B has no outgoing transitions", "State D has no outgoing transitions"] := by
  obtain ⟨start, names, flags, lost, stuck, _, _, _, _, _, hreview⟩ :=
    the_report_is_exact (d := ⟨⟨["A", "B", "B", "C", "D"]⟩,
      ⟨[⟨"A", "B", 0⟩, ⟨"A", "B", 1⟩, ⟨"B", "A", 3⟩, ⟨"C", "A", 4⟩]⟩, .explicit⟩)
      (by decide) (by decide)
  obtain ⟨r, hr, hsays⟩ := hreview false
  refine ⟨r, hr, hsays.errors, hsays.once, ?_⟩
  have hlost : unreachable ⟨["A", "B", "B", "C", "D"]⟩
      ⟨[⟨"A", "B", 0⟩, ⟨"A", "B", 1⟩, ⟨"B", "A", 3⟩, ⟨"C", "A", 4⟩]⟩ "A" = ["C", "D"] := by
    simp [unreachable, reachedFrom, reachAlong, leaving, leavingOthers, newTargets, distinct]
  cases hr.symm.trans (Report.review_eq_ok rfl false)
  rw [Report.startingIn, hlost]
  decide +kernel

end ThreeBlock
