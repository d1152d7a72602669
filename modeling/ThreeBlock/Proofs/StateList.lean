-- Positions in a state list. The position of a name is that of its first
-- entry, 0 stands for a name without one, and the name at the position of a
-- declared name is the name itself.
import Mathlib.Data.List.Basic
import ThreeBlock.StateList
namespace ThreeBlock.StateList

/-! ## The position of a name -/

theorem positionFrom_of_mem {name : String} {names : List String} (next : Nat)
    (h : name ∈ names) : positionFrom name next names = next + names.idxOf name := by
  induction names generalizing next with
  | nil => cases h
  | cons n ns ih =>
    rw [positionFrom, List.idxOf_cons]
    by_cases hn : n = name
    · simp [hn]
    · have hmem : name ∈ ns := (List.mem_cons.1 h).resolve_left (Ne.symm hn)
      rw [if_neg hn, ih _ hmem, beq_false_of_ne hn, cond_false]
      omega

theorem positionFrom_of_not_mem {name : String} {names : List String} (next : Nat)
    (h : name ∉ names) : positionFrom name next names = 0 := by
  induction names generalizing next with
  | nil => rfl
  | cons n ns ih =>
    rw [List.mem_cons, not_or] at h
    rw [positionFrom, if_neg (Ne.symm h.1), ih _ h.2]

variable {s : StateList} {name : String}

theorem positionOf_of_mem (h : name ∈ s.names) : s.positionOf name = s.names.idxOf name + 1 := by
  rw [positionOf, positionFrom_of_mem 1 h, Nat.add_comm]

theorem positionOf_eq_zero_iff : s.positionOf name = 0 ↔ name ∉ s.names := by
  constructor
  · intro h hmem
    rw [positionOf_of_mem hmem] at h
    omega
  · exact positionFrom_of_not_mem 1

/-! ## The name at a position -/

theorem at?_eq_some_iff {p : Int} :
    s.at? p = some name ↔ ∃ i : Nat, p = i + 1 ∧ s.names[i]? = some name := by
  unfold at?
  constructor
  · intro h
    split at h
    · exact ⟨(p - 1).toNat, by omega, h⟩
    · cases h
  · rintro ⟨i, rfl, hi⟩
    rw [if_pos (by omega), show ((i : Int) + 1 - 1).toNat = i by omega]
    exact hi

theorem mem_of_at? {p : Int} (h : s.at? p = some name) : name ∈ s.names := by
  obtain ⟨i, _, hi⟩ := at?_eq_some_iff.1 h
  exact List.mem_of_getElem? hi

/-- The name at the position of a declared name is the name. -/
theorem at?_positionOf (h : name ∈ s.names) : s.at? (s.positionOf name) = some name := by
  have hlt := List.idxOf_lt_length_of_mem h
  rw [at?_eq_some_iff]
  refine ⟨s.names.idxOf name, by rw [positionOf_of_mem h]; rfl, ?_⟩
  rw [List.getElem?_eq_getElem hlt, List.getElem_idxOf hlt]

theorem positionOf_pos (h : name ∈ s.names) : 0 < s.positionOf name := by
  rw [positionOf_of_mem h]
  omega

theorem positionOf_le (h : name ∈ s.names) : s.positionOf name ≤ s.size :=
  positionOf_of_mem h ▸ List.idxOf_lt_length_of_mem h

/-- The position of a name is that of its first entry. -/
theorem positionOf_le_of_at? {p : Nat} (h : s.at? p = some name) : s.positionOf name ≤ p := by
  obtain ⟨i, hi, hname⟩ := at?_eq_some_iff.1 h
  obtain ⟨hlt, hget⟩ := List.getElem?_eq_some_iff.1 hname
  have hle : s.names.idxOf name ≤ i := by
    by_contra hbefore
    have hother := List.not_of_lt_findIdx (Nat.not_le.1 hbefore)
    rw [hget, beq_self_eq_true] at hother
    cases hother
  rw [positionOf_of_mem (List.mem_of_getElem? hname)]
  omega

/-- Different names have different positions. -/
theorem eq_of_positionOf_eq {other : String} (h : name ∈ s.names)
    (heq : s.positionOf name = s.positionOf other) : name = other := by
  have hother : other ∈ s.names := by
    have hpos := positionOf_pos h
    by_cases hmem : other ∈ s.names
    · exact hmem
    · rw [heq, positionOf_eq_zero_iff.2 hmem] at hpos
      omega
  have hat := at?_positionOf h
  rw [heq, at?_positionOf hother] at hat
  exact (Option.some.inj hat).symm

theorem nameAt_eq_ok_iff {p : Int} : s.nameAt p = .ok name ↔ s.at? p = some name := by
  unfold nameAt
  cases s.at? p with
  | none => simp
  | some n => simp

/-! ## Entries with their positions -/

theorem mem_numbered {p : Nat} : (p, name) ∈ s.numbered ↔ s.at? p = some name := by
  rw [at?_eq_some_iff, numbered, List.mem_iff_getElem?]
  simp only [numberFrom_getElem?, Option.map_eq_some_iff, Prod.mk.injEq]
  constructor
  · rintro ⟨i, n, hi, rfl, rfl⟩
    exact ⟨i, by omega, hi⟩
  · rintro ⟨i, hp, hi⟩
    exact ⟨i, name, hi, by omega, rfl⟩

theorem numberFrom_eq_zipIdx (next : Nat) (names : List String) :
    numberFrom next names = (names.zipIdx next).map Prod.swap := by
  induction names generalizing next with
  | nil => rfl
  | cons n ns ih =>
    rw [numberFrom, ih, List.zipIdx_cons, List.map_cons]
    rfl

theorem map_fst_numbered (s : StateList) : s.numbered.map Prod.fst = List.range' 1 s.size := by
  rw [numbered, numberFrom_eq_zipIdx, List.map_map]
  exact List.zipIdx_map_snd 1 s.names

theorem map_snd_numbered (s : StateList) : s.numbered.map Prod.snd = s.names := by
  rw [numbered, numberFrom_eq_zipIdx, List.map_map]
  exact List.zipIdx_map_fst 1 s.names

theorem numbered_ne_nil (h : s.names ≠ []) : s.numbered ≠ [] := by
  intro hnil
  rw [← map_snd_numbered, hnil] at h
  exact h rfl

theorem zipIdx_map_numberFrom {α : Type} (f : Nat × String → α) (next : Nat)
    (names : List String) :
    ((numberFrom next names).map f).zipIdx next =
      (numberFrom next names).map fun e => (f e, e.1) := by
  induction names generalizing next with
  | nil => rfl
  | cons n ns ih => rw [numberFrom, List.map_cons, List.zipIdx_cons, ih, List.map_cons]

/-- What is made from an entry is found by its number. -/
theorem exists_of_getElem?_numbered {α : Type} {f : Nat × String → α} {i : Nat} {x : α}
    (h : (s.numbered.map f)[i]? = some x) : ∃ n, x = f (i + 1, n) := by
  rw [List.getElem?_map, numbered, numberFrom_getElem?, Option.map_map,
    Option.map_eq_some_iff] at h
  obtain ⟨n, _, rfl⟩ := h
  exact ⟨n, by rw [Function.comp_apply, Nat.add_comm]⟩

theorem lookup_numberFrom {α : Type} (f : Nat → α) {names : List String} (next : Nat)
    (h : name ∈ names) :
    ((numberFrom next names).map fun e => (e.2, f e.1)).lookup name =
      some (f (positionFrom name next names)) := by
  induction names generalizing next with
  | nil => cases h
  | cons n ns ih =>
    rw [numberFrom, List.map_cons, positionFrom]
    by_cases hn : n = name
    · simp [hn]
    · have hmem : name ∈ ns := (List.mem_cons.1 h).resolve_left (Ne.symm hn)
      rw [if_neg hn, List.lookup_cons, ← ih (next + 1) hmem, beq_false_of_ne (Ne.symm hn)]

/-- A table by names, made from positions, gives the first entry of a name. -/
theorem lookup_numbered {α : Type} (f : Nat → α) (h : name ∈ s.names) :
    (s.numbered.map fun e => (e.2, f e.1)).lookup name = some (f (s.positionOf name)) :=
  lookup_numberFrom f 1 h

end ThreeBlock.StateList
