-- Things sorted by a key. The sort is stable: things with one key keep their order,
-- so a sorted list is one list for each key, one after the other.
import Mathlib.Data.List.Basic
import Mathlib.Order.Lattice
namespace ThreeBlock

variable {α κ : Type} [LinearOrder κ]

/-- Whether one thing may stand in front of another. -/
def keyLE (key : α → κ) (x y : α) : Bool := key x ≤ key y

theorem keyLE_iff {key : α → κ} {x y : α} : keyLE key x y = true ↔ key x ≤ key y :=
  decide_eq_true_iff

theorem keyLE_trans (key : α → κ) (x y z : α) (hxy : keyLE key x y = true)
    (hyz : keyLE key y z = true) : keyLE key x z = true :=
  keyLE_iff.2 ((keyLE_iff.1 hxy).trans (keyLE_iff.1 hyz))

theorem keyLE_total (key : α → κ) (x y : α) : (keyLE key x y || keyLE key y x) = true := by
  rw [Bool.or_eq_true, keyLE_iff, keyLE_iff]
  exact le_total _ _

/-- Things sorted by a key. Those with one key keep their order. -/
def sortBy (key : α → κ) (xs : List α) : List α := xs.mergeSort (keyLE key)

theorem sortBy_perm (key : α → κ) (xs : List α) : (sortBy key xs).Perm xs := List.mergeSort_perm _ _

theorem mem_sortBy {key : α → κ} {xs : List α} {x : α} : x ∈ sortBy key xs ↔ x ∈ xs :=
  List.mem_mergeSort

theorem pairwise_sortBy (key : α → κ) (xs : List α) :
    (sortBy key xs).Pairwise fun x y => key x ≤ key y :=
  (List.pairwise_mergeSort (keyLE_trans key) (keyLE_total key) xs).imp keyLE_iff.1

theorem map_sortBy {β : Type} (key : β → κ) (f : α → β) (xs : List α) :
    (sortBy (key ∘ f) xs).map f = sortBy key (xs.map f) := by
  apply List.map_mergeSort
  intro a _ b _
  rfl

/-- The things with one key stand in the sorted list in the order that they had. -/
theorem filter_sortBy (key : α → κ) (k : κ) (xs : List α) :
    (sortBy key xs).filter (fun x => key x = k) = xs.filter fun x => key x = k := by
  have hequal : (xs.filter fun x => key x = k).Pairwise fun x y => keyLE key x y = true := by
    rw [List.pairwise_iff_forall_sublist]
    intro x y hsub
    have hx := (List.mem_filter.1 (hsub.subset (by simp : x ∈ [x, y]))).2
    have hy := (List.mem_filter.1 (hsub.subset (by simp : y ∈ [x, y]))).2
    rw [decide_eq_true_eq] at hx hy
    exact keyLE_iff.2 (hx.trans hy.symm).le
  have hsub : (xs.filter fun x => key x = k).Sublist (sortBy key xs) :=
    List.sublist_mergeSort (keyLE_trans key) (keyLE_total key) hequal List.filter_sublist
  have hfilter := hsub.filter fun x => key x = k
  rw [List.filter_filter] at hfilter
  simp only [Bool.and_self] at hfilter
  exact (hfilter.eq_of_length ((sortBy_perm key xs).filter _).length_eq.symm).symm

/-- A sorted list is put together from its things with the first key, the second key,
and so on. -/
theorem flatMap_filter_of_pairwise (key : α → κ) {keys : List κ} (hkeys : keys.Pairwise (· < ·))
    {xs : List α} (hsorted : xs.Pairwise fun x y => key x ≤ key y) (h : ∀ x ∈ xs, key x ∈ keys) :
    (keys.flatMap fun k => xs.filter fun x => key x = k) = xs := by
  induction xs with
  | nil => simp
  | cons x xs ih =>
    obtain ⟨hx, hxs⟩ := List.pairwise_cons.1 hsorted
    obtain ⟨hmem, hrest⟩ := List.forall_mem_cons.1 h
    have ih := ih hxs hrest
    obtain ⟨before, after, rfl⟩ := List.append_of_mem hmem
    obtain ⟨_, hafter, hbefore⟩ := List.pairwise_append.1 hkeys
    have hlt : ∀ k ∈ before, k < key x := fun k hk => hbefore k hk _ List.mem_cons_self
    have hgt : ∀ k ∈ after, key x < k := (List.pairwise_cons.1 hafter).1
    -- No later thing has a key in front of that of the first one.
    have hnone : (before.flatMap fun k => xs.filter fun y => key y = k) = [] := by
      rw [List.flatMap_eq_nil_iff]
      intro k hk
      rw [List.filter_eq_nil_iff]
      intro y hy
      simpa using ((hlt k hk).trans_le (hx y hy)).ne'
    have hskip : ∀ ks : List κ, key x ∉ ks →
        (ks.flatMap fun k => (x :: xs).filter fun y => key y = k) =
          ks.flatMap fun k => xs.filter fun y => key y = k := by
      intro ks hks
      apply List.flatMap_congr
      intro k hk
      have hne : key x ≠ k := fun he => hks (he ▸ hk)
      rw [List.filter_cons_of_neg (by simpa using hne)]
    rw [List.flatMap_append, hnone, List.nil_append, List.flatMap_cons] at ih
    rw [List.flatMap_append, List.flatMap_cons, hskip before fun hm => (hlt _ hm).false,
      hskip after fun hm => (hgt _ hm).false, hnone, List.nil_append,
      List.filter_cons_of_pos (by simp), List.cons_append, ih]

/-- Sorting by a key is putting the things with each key together. -/
theorem sortBy_eq_flatMap (key : α → κ) {keys : List κ} (hkeys : keys.Pairwise (· < ·))
    {xs : List α} (h : ∀ x ∈ xs, key x ∈ keys) :
    sortBy key xs = keys.flatMap fun k => xs.filter fun x => key x = k := by
  have hsorted := flatMap_filter_of_pairwise key hkeys (pairwise_sortBy key xs)
    fun x hx => h x (mem_sortBy.1 hx)
  rw [← hsorted]
  exact List.flatMap_congr fun k _ => filter_sortBy key k xs

end ThreeBlock
