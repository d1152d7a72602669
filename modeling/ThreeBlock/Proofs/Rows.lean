-- Steps that are taken in a row, each of which gives a value or an error. The
-- row gives all the values, or the first error.
import Mathlib.Data.List.Forall2
namespace ThreeBlock

/-! ## One step -/

section Steps

variable {ε ε' α β : Type} {x : Except ε α} {b : β} {e : ε}

theorem map_eq_ok_iff {f : α → β} : x.map f = .ok b ↔ ∃ a, x = .ok a ∧ f a = b := by
  cases x with
  | error e => simp [Except.map]
  | ok a => simp [Except.map]

theorem map_eq_error_iff {f : α → β} : x.map f = .error e ↔ x = .error e := by
  cases x with
  | error e => simp [Except.map]
  | ok a => simp [Except.map]

theorem bind_eq_ok_iff {f : α → Except ε β} : x.bind f = .ok b ↔ ∃ a, x = .ok a ∧ f a = .ok b := by
  cases x with
  | error e => simp [Except.bind]
  | ok a => simp [Except.bind]

theorem bind_eq_error_iff {f : α → Except ε β} :
    x.bind f = .error e ↔ x = .error e ∨ ∃ a, x = .ok a ∧ f a = .error e := by
  cases x with
  | error e => simp [Except.bind]
  | ok a => simp [Except.bind]

theorem mapError_eq_ok_iff {g : ε → ε'} {a : α} : x.mapError g = .ok a ↔ x = .ok a := by
  cases x with
  | error e => simp [Except.mapError]
  | ok a => simp [Except.mapError]

theorem mapError_eq_error_iff {g : ε → ε'} {e' : ε'} :
    x.mapError g = .error e' ↔ ∃ e, x = .error e ∧ g e = e' := by
  cases x with
  | error e => simp [Except.mapError]
  | ok a => simp [Except.mapError]

end Steps

/-! ## A row of steps -/

theorem mapM_of_forall₂ {ε α β : Type} {f : α → Except ε β} {R : α → β → Prop} {xs : List α}
    {ys : List β} (h : List.Forall₂ R xs ys) (hf : ∀ x ∈ xs, ∀ y, R x y → f x = .ok y) :
    xs.mapM f = .ok ys := by
  induction h with
  | nil => rfl
  | @cons x y xs ys hxy _ ih =>
    rw [List.mapM_cons, hf x List.mem_cons_self y hxy,
      ih fun z hz => hf z (List.mem_cons_of_mem _ hz)]
    rfl

theorem mapM_eq_ok_map {ε α β : Type} {f : α → Except ε β} {g : α → β} {xs : List α}
    (h : ∀ x ∈ xs, f x = .ok (g x)) : xs.mapM f = .ok (xs.map g) := by
  apply mapM_of_forall₂ (R := fun x y => y = g x)
  · rw [List.forall₂_map_right_iff, List.forall₂_same]
    intro x _
    rfl
  · rintro x hx y rfl
    exact h x hx

/-- A row of parts that are all there. -/
theorem mapM_eq_some_map {α β : Type} {f : α → Option β} {g : α → β} {xs : List α}
    (h : ∀ x ∈ xs, f x = some (g x)) : xs.mapM f = some (xs.map g) := by
  induction xs with
  | nil => rfl
  | cons x xs ih =>
    rw [List.mapM_cons, h x List.mem_cons_self, ih fun y hy => h y (List.mem_cons_of_mem _ hy)]
    rfl

/-- The first error ends the row. -/
theorem mapM_of_first_error {ε α β : Type} {f : α → Except ε β} {before : List α} {x : α} {e : ε}
    (h : ∀ w ∈ before, ∃ y, f w = .ok y) (he : f x = .error e) (after : List α) :
    (before ++ x :: after).mapM f = .error e := by
  induction before with
  | nil =>
    rw [List.nil_append, List.mapM_cons, he]
    rfl
  | cons w ws ih =>
    obtain ⟨y, hy⟩ := h w List.mem_cons_self
    rw [List.cons_append, List.mapM_cons, hy, ih fun v hv => h v (List.mem_cons_of_mem _ hv)]
    rfl

theorem mapM_eq_ok_iff {ε α β : Type} {f : α → Except ε β} {xs : List α} {ys : List β} :
    xs.mapM f = .ok ys ↔ List.Forall₂ (fun x y => f x = .ok y) xs ys := by
  constructor
  · intro h
    induction xs generalizing ys with
    | nil =>
      obtain rfl : [] = ys := Except.ok.inj h
      exact .nil
    | cons x xs ih =>
      rw [List.mapM_cons] at h
      obtain ⟨z, hx, h⟩ := bind_eq_ok_iff.1 h
      obtain ⟨zs, hxs, h⟩ := bind_eq_ok_iff.1 h
      obtain rfl : z :: zs = ys := Except.ok.inj h
      exact .cons hx (ih hxs)
  · intro h
    exact mapM_of_forall₂ h fun _ _ _ hx => hx

theorem exists_of_forall₂ {α β : Type} {R : α → β → Prop} {xs : List α} {ys : List β}
    (h : List.Forall₂ R xs ys) : ∀ y ∈ ys, ∃ x ∈ xs, R x y := by
  induction h with
  | nil => simp
  | @cons x y xs ys hxy _ ih =>
    intro z hz
    rcases List.mem_cons.1 hz with rfl | hz
    · exact ⟨x, List.mem_cons_self, hxy⟩
    · obtain ⟨w, hw, hwz⟩ := ih z hz
      exact ⟨w, List.mem_cons_of_mem _ hw, hwz⟩

theorem exists_of_mapM_eq_ok {ε α β : Type} {f : α → Except ε β} {xs : List α} {ys : List β}
    (h : xs.mapM f = .ok ys) : ∀ y ∈ ys, ∃ x ∈ xs, f x = .ok y :=
  exists_of_forall₂ (mapM_eq_ok_iff.1 h)

theorem exists_forall₂ {α β : Type} {R : α → β → Prop} {xs : List α}
    (h : ∀ x ∈ xs, ∃ y, R x y) : ∃ ys, List.Forall₂ R xs ys := by
  induction xs with
  | nil => exact ⟨[], .nil⟩
  | cons x xs ih =>
    obtain ⟨⟨y, hy⟩, hxs⟩ := List.forall_mem_cons.1 h
    obtain ⟨ys, hys⟩ := ih hxs
    exact ⟨y :: ys, .cons hy hys⟩

/-- A row has a property throughout, or a first member without it. -/
theorem forall_or_first {α : Type} (P : α → Prop) (xs : List α) :
    (∀ x ∈ xs, P x) ∨
      ∃ before x after, xs = before ++ x :: after ∧ (∀ w ∈ before, P w) ∧ ¬ P x := by
  induction xs with
  | nil => simp
  | cons x xs ih =>
    by_cases hx : P x
    · rcases ih with hall | ⟨before, z, after, rfl, hbefore, hz⟩
      · exact Or.inl (List.forall_mem_cons.2 ⟨hx, hall⟩)
      · exact Or.inr ⟨x :: before, z, after, rfl, List.forall_mem_cons.2 ⟨hx, hbefore⟩, hz⟩
    · exact Or.inr ⟨[], x, xs, rfl, by simp, hx⟩

/-- Where every member of a row is good or bad, the whole row is good or has a first
bad member. -/
theorem forall₂_or_first {α β γ : Type} {good : α → β → Prop} {bad : α → γ → Prop}
    (h : ∀ x, (∃ y, good x y) ∨ ∃ f, bad x f) (xs : List α) :
    (∃ ys, List.Forall₂ good xs ys) ∨
      ∃ before x after f, xs = before ++ x :: after ∧ (∀ w ∈ before, ∃ y, good w y) ∧
        bad x f := by
  rcases forall_or_first (fun x => ∃ y, good x y) xs with
    hall | ⟨before, x, after, hsplit, hbefore, hx⟩
  · exact Or.inl (exists_forall₂ hall)
  · obtain ⟨f, hf⟩ := (h x).resolve_left hx
    exact Or.inr ⟨before, x, after, f, hsplit, hbefore, hf⟩

/-- A row gives the error of its first bad step. -/
theorem mapM_eq_error_iff {ε α β : Type} {f : α → Except ε β} {xs : List α} {e : ε} :
    xs.mapM f = .error e ↔
      ∃ before x after, xs = before ++ x :: after ∧ (∀ w ∈ before, ∃ y, f w = .ok y) ∧
        f x = .error e := by
  constructor
  · intro h
    rcases forall_or_first (fun x => ∃ y, f x = .ok y) xs with
      hall | ⟨before, x, after, rfl, hbefore, hx⟩
    · obtain ⟨ys, hys⟩ := exists_forall₂ hall
      rw [mapM_eq_ok_iff.2 hys] at h
      cases h
    · cases hfx : f x with
      | error e' =>
        rw [mapM_of_first_error hbefore hfx] at h
        cases h
        exact ⟨before, x, after, rfl, hbefore, hfx⟩
      | ok y => exact absurd ⟨y, hfx⟩ hx
  · rintro ⟨before, x, after, rfl, hbefore, hx⟩
    exact mapM_of_first_error hbefore hx after

/-- Rows inside a row are read as one long row. -/
theorem mapM_flatten {ε α β γ : Type} {f : β → Except ε γ} (g : α → List β) (xs : List α) :
    (xs.mapM fun x => (g x).mapM f).map List.flatten = (xs.flatMap g).mapM f := by
  induction xs with
  | nil => rfl
  | cons x xs ih =>
    rw [List.mapM_cons, List.flatMap_cons, List.mapM_append, ← ih]
    cases (g x).mapM f with
    | error e => rfl
    | ok ys => cases xs.mapM fun x => (g x).mapM f <;> rfl

end ThreeBlock
