-- The report of a review. Later warnings stand behind the earlier ones and
-- never among them, and the warning about an unreachable state is told from
-- every other warning, so it is there just when no chain of edges leads to
-- the state.
import ThreeBlock.Proofs.Identifier
import ThreeBlock.Proofs.Review.Reachability
import ThreeBlock.Proofs.StateList
namespace ThreeBlock.Report

/-- The report on a machine that starts in a state. -/
def startingIn (start : String) (strict : Bool) (d : Definition) : Report where
  errors := if strict then strictErrors d else []
  warnings := withDeadEnds d ((if strict then [] else repeatWarnings d) ++
    (unreachable d.states d.transitions start).map (notReached start))

theorem review_eq_ok {d : Definition} {start : String} (hstart : d.states.reset? = some start)
    (strict : Bool) : review strict d = .ok (startingIn start strict d) := by
  rw [review, StateList.reset, hstart]
  rfl

/-! ## Warnings about dead ends -/

theorem exists_foldl_addOnce (more warnings : List String) :
    ∃ kept, kept ⊆ more ∧ more.foldl addOnce warnings = warnings ++ kept := by
  induction more generalizing warnings with
  | nil => exact ⟨[], List.Subset.refl _, (List.append_nil _).symm⟩
  | cons w more ih =>
    rw [List.foldl_cons, addOnce]
    split
    · obtain ⟨kept, hsub, heq⟩ := ih warnings
      exact ⟨kept, List.subset_cons_of_subset _ hsub, heq⟩
    · obtain ⟨kept, hsub, heq⟩ := ih (warnings ++ [w])
      refine ⟨w :: kept, List.cons_subset_cons _ hsub, ?_⟩
      rw [heq, List.append_assoc, List.singleton_append]

theorem mem_of_mem_deadEnds {d : Definition} {n : String} (h : n ∈ deadEnds d) :
    n ∈ d.states.names := by
  obtain ⟨⟨p, m⟩, he, rfl⟩ := List.mem_map.1 h
  exact StateList.mem_of_at? (StateList.mem_numbered.1 (List.mem_filter.1 he).1)

/-- Warnings about dead ends stand behind all others. -/
theorem exists_withDeadEnds (d : Definition) (warnings : List String) :
    ∃ kept, (∀ w ∈ kept, ∃ n ∈ d.states.names, w = noWayOut n) ∧
      withDeadEnds d warnings = warnings ++ kept := by
  unfold withDeadEnds
  cases d.flavor with
  | cyclic => exact ⟨[], by simp, (List.append_nil _).symm⟩
  | explicit =>
    obtain ⟨kept, hsub, heq⟩ := exists_foldl_addOnce ((deadEnds d).map noWayOut) warnings
    refine ⟨kept, ?_, heq⟩
    intro w hw
    obtain ⟨n, hn, rfl⟩ := List.mem_map.1 (hsub hw)
    exact ⟨n, mem_of_mem_deadEnds hn, rfl⟩

/-! ## Warnings about unreachable states -/

theorem notReached_injective {start a b : String} (h : notReached start a = notReached start b) :
    a = b := by
  have hlist := congrArg String.toList h
  simp only [notReached, String.toList_append, List.append_assoc, List.append_cancel_left_eq,
    List.append_cancel_right_eq] at hlist
  exact String.toList_inj.1 hlist

/-- The word behind the name tells the two kinds of warnings apart. -/
theorem notReached_ne_noWayOut (start : String) {a b : String} (ha : isIdentifier a = true)
    (hb : isIdentifier b = true) : notReached start a ≠ noWayOut b := by
  intro h
  have hspace : ∀ n, isIdentifier n = true → ' ' ∉ n.toList := fun n hn =>
    (isWord_of_isIdentifier hn).not_mem (by decide)
  have hlist : a.toList ++ ' ' :: ("is unreachable from " ++ start).toList =
      b.toList ++ ' ' :: "has no outgoing transitions".toList := by
    have hwhole := congrArg String.toList h
    simpa [notReached, noWayOut] using hwhole
  have hwords := congrArg (List.splitOn ' ') hlist
  rw [List.splitOn_append_cons_self_of_not_mem (hspace a ha),
    List.splitOn_append_cons_self_of_not_mem (hspace b hb)] at hwords
  rw [(List.cons.inj hwords).1, List.append_cancel_left_eq] at hlist
  simp at hlist

/-- In strict mode a state is told as unreachable just when no chain of edges
leads to it. -/
theorem notReached_mem_warnings {d : Definition} {start n : String}
    (hnames : ∀ m ∈ d.states.names, isIdentifier m = true) (hn : n ∈ d.states.names) :
    notReached start n ∈ (startingIn start true d).warnings ↔
      ¬ Relation.ReflTransGen d.transitions.Leads start n := by
  obtain ⟨kept, hkept, heq⟩ := exists_withDeadEnds d
    ((unreachable d.states d.transitions start).map (notReached start))
  have hwarnings : (startingIn start true d).warnings =
      (unreachable d.states d.transitions start).map (notReached start) ++ kept := heq
  have hother : notReached start n ∉ kept := by
    intro hmem
    obtain ⟨m, hm, hsame⟩ := hkept _ hmem
    exact notReached_ne_noWayOut start (hnames n hn) (hnames m hm) hsame
  have hlost : n ∈ unreachable d.states d.transitions start ↔
      ¬ Relation.ReflTransGen d.transitions.Leads start n := by
    rw [mem_unreachable]
    exact and_iff_right hn
  rw [hwarnings, List.mem_append, or_iff_left hother, List.mem_map, ← hlost]
  constructor
  · rintro ⟨m, hm, hsame⟩
    rwa [← notReached_injective hsame]
  · intro hmem
    exact ⟨n, hmem, rfl⟩

end ThreeBlock.Report
