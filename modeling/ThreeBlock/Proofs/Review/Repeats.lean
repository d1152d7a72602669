-- Repeats in a list of names. The names told are those that occur more than
-- once, each of them once, in the order in which they first occur. There are
-- none just when all names are different.
import Mathlib.Data.List.Basic
import Mathlib.Data.List.Nodup
import ThreeBlock.Review
namespace ThreeBlock

/-! ## First occurrences -/

@[simp]
theorem mem_distinct {n : String} {names : List String} : n ∈ distinct names ↔ n ∈ names := by
  induction names with
  | nil => rfl
  | cons m ms ih =>
    rw [distinct, List.mem_cons, List.mem_filter, ih, List.mem_cons]
    by_cases h : n = m
    · simp [h]
    · simp [h]

theorem idxOf_cons_lt {n a b : String} {names : List String} (ha : a ≠ n) (hb : b ≠ n)
    (h : names.idxOf a < names.idxOf b) : (n :: names).idxOf a < (n :: names).idxOf b := by
  rw [List.idxOf_cons_ne _ (Ne.symm ha), List.idxOf_cons_ne _ (Ne.symm hb)]
  omega

/-- First occurrences stand in the order in which they occur. -/
theorem pairwise_distinct (names : List String) :
    (distinct names).Pairwise fun a b => names.idxOf a < names.idxOf b := by
  induction names with
  | nil => exact .nil
  | cons n ns ih =>
    have hne : ∀ b ∈ (distinct ns).filter (fun m => m ≠ n), b ≠ n := by
      intro b hb
      simpa using (List.mem_filter.1 hb).2
    rw [distinct, List.pairwise_cons]
    constructor
    · intro b hb
      rw [List.idxOf_cons_self, List.idxOf_cons_ne _ (Ne.symm (hne b hb))]
      omega
    · refine (ih.filter _).imp_of_mem ?_
      intro a b ha hb hlt
      exact idxOf_cons_lt (hne a ha) (hne b hb) hlt

theorem nodup_distinct (names : List String) : (distinct names).Nodup :=
  (pairwise_distinct names).imp fun hlt => by
    rintro rfl
    omega

/-! ## Repeats -/

/-- Some names are those that occur more than once in a list, in the order in
which they first occur. -/
structure AreRepeats (names told : List String) : Prop where
  mem : ∀ n, n ∈ told ↔ 2 ≤ names.count n
  ordered : told.Pairwise fun a b => names.idxOf a < names.idxOf b

theorem areRepeats_repeated (names : List String) : AreRepeats names (repeated names) := by
  constructor
  · intro n
    rw [repeated, List.mem_filter, mem_distinct, decide_eq_true_eq]
    constructor
    · rintro ⟨_, h⟩
      exact h
    · intro h
      exact ⟨List.count_pos_iff.1 (by omega), h⟩
  · exact (pairwise_distinct names).filter _

theorem repeated_eq_nil_iff {names : List String} : repeated names = [] ↔ names.Nodup := by
  rw [List.nodup_iff_count_le_one, List.eq_nil_iff_forall_not_mem]
  refine forall_congr' fun n => ?_
  rw [(areRepeats_repeated names).mem]
  omega

theorem mem_of_mem_repeated {n : String} {names : List String} (h : n ∈ repeated names) :
    n ∈ names := mem_distinct.1 (List.mem_filter.1 h).1

end ThreeBlock
