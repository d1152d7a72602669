-- Who may say that a text breaks off. The reading of a text ends with many errors of
-- its own, and with the error of the wall when it gets there; that the text breaks off
-- is said by the wall alone.
import ThreeBlock.Yaml.Scalars
namespace ThreeBlock.Yaml

/-- Whether an error says that the text breaks off. -/
def Error.isBreak : Error → Bool
  | .broken => true
  | _ => false

/-- An error that the reading of a text may end with: one of its own, or that of the
wall. -/
def Error.Fits (wall : Option Error) (e : Error) : Prop := e.isBreak = false ∨ wall = some e

theorem Error.Fits.of_broken {wall : Option Error} (h : Error.Fits wall .broken) :
    wall = some .broken := by
  cases h with
  | inl h => cases h
  | inr h => exact h

/-- A reading in front of a wall: what it gives meets `P`, and an error fits the wall. -/
inductive Keeps {α : Type} (wall : Option Error) (P : α → Prop) : Except Error α → Prop
  | ok {a : α} : P a → Keeps wall P (.ok a)
  | error {e : Error} : e.Fits wall → Keeps wall P (.error e)

namespace Keeps

variable {α β : Type} {wall : Option Error} {P : α → Prop} {Q : β → Prop} {x : Except Error α}

theorem own {e : Error} (h : e.isBreak = false) : Keeps wall P (.error e) := .error (.inl h)

theorem fits {e : Error} (h : Keeps wall P (.error e)) : e.Fits wall := by
  cases h with
  | error h => exact h

theorem bind {f : α → Except Error β} (hx : Keeps wall P x)
    (hf : ∀ a, P a → Keeps wall Q (f a)) : Keeps wall Q (x >>= f) := by
  cases hx with
  | ok h => exact hf _ h
  | error h => exact .error h

theorem map {f : α → β} (hx : Keeps wall P x) (hf : ∀ a, P a → Q (f a)) :
    Keeps wall Q (x.map f) := by
  cases hx with
  | ok h => exact .ok (hf _ h)
  | error h => exact .error h

theorem ite {p : Prop} [Decidable p] {y : Except Error α} (hx : Keeps wall P x)
    (hy : Keeps wall P y) : Keeps wall P (if p then x else y) := by
  split
  · exact hx
  · exact hy

end Keeps

/-! ## Places -/

namespace Cursor

@[simp] theorem wall_advance (c : Cursor) : c.advance.wall = c.wall := by
  unfold advance
  split
  · rfl
  · dsimp only
    split
    · rfl
    · split <;> rfl

@[simp] theorem wall_skip (n : Nat) (c : Cursor) : (c.skip n).wall = c.wall := by
  induction n generalizing c with
  | zero => rfl
  | succ n ih => exact (ih c.advance).trans c.wall_advance

@[simp] theorem wall_takeWhile (p : Char → Bool) (c : Cursor) :
    (c.takeWhile p).2.wall = c.wall := wall_skip _ c

@[simp] theorem wall_skipWhile (p : Char → Bool) (c : Cursor) :
    (c.skipWhile p).wall = c.wall := wall_takeWhile p c

@[simp] theorem wall_skipComment (c : Cursor) : c.skipComment.wall = c.wall := by
  unfold skipComment
  split <;> simp

theorem wall_takeBreak {c after : Cursor} {b : Char} (h : c.takeBreak = some (b, after)) :
    after.wall = c.wall := by
  unfold takeBreak at h
  split at h
  · cases h
    exact wall_skip 2 c
  · split at h
    · cases h
      exact wall_advance c
    · split at h
      · cases h
        exact wall_advance c
      · cases h
  · cases h

end Cursor

section

variable {α : Type} {wall : Option Error} {c : Cursor}

theorem keeps_reach (hc : c.wall = wall) (n : Nat) : Keeps wall (fun _ => True) (c.reach n) := by
  subst hc
  unfold Cursor.reach
  split
  · exact .ok trivial
  · next e hwall =>
    split
    · exact .error (.inr hwall)
    · exact .ok trivial

theorem keeps_refuse {P : α → Prop} (hc : c.wall = wall) {e : Error}
    (he : e.isBreak = false) : Keeps wall P (c.refuse e) :=
  (keeps_reach hc 1).bind fun _ _ => .own he

end

/-! ## Readings with a state -/

/-- A reading with a state keeps an invariant of it, and its errors fit the wall. -/
structure Runs {σ α : Type} (wall : Option Error) (I : σ → Prop)
    (m : StateT σ (Except Error) α) : Prop where
  keeps : ∀ s, I s → Keeps wall (fun r => I r.2) (m s)

namespace Runs

variable {σ α β : Type} {wall : Option Error} {I : σ → Prop}
variable {m : StateT σ (Except Error) α}

theorem pure (a : α) : Runs wall I (pure a) := ⟨fun _ hs => .ok hs⟩

theorem throw {e : Error} (h : e.isBreak = false) :
    Runs (α := α) wall I (throw e) := ⟨fun _ _ => .own h⟩

theorem bind {f : α → StateT σ (Except Error) β} (hm : Runs wall I m)
    (hf : ∀ a, Runs wall I (f a)) : Runs wall I (m >>= f) := by
  constructor
  intro s hs
  exact (hm.keeps s hs).bind fun r hr => (hf r.1).keeps r.2 hr

theorem get : Runs (σ := σ) wall I get := ⟨fun _ hs => .ok hs⟩

theorem modify {g : σ → σ} (h : ∀ s, I s → I (g s)) :
    Runs (σ := σ) wall I (modify g) := ⟨fun s hs => .ok (h s hs)⟩

theorem lift {x : Except Error α} (h : Keeps wall (fun _ => True) x) :
    Runs (σ := σ) wall I (liftM x) := by
  constructor
  intro s hs
  cases h with
  | ok _ => exact .ok hs
  | error h => exact .error h

theorem map (f : α → β) (hm : Runs wall I m) : Runs wall I (f <$> m) := by
  constructor
  intro s hs
  exact (hm.keeps s hs).bind fun r hr => .ok hr

theorem seqRight {n : StateT σ (Except Error) β} (hm : Runs wall I m) (hn : Runs wall I n) :
    Runs wall I (m *> n) := by
  constructor
  intro s hs
  exact (hm.keeps s hs).bind fun r hr => hn.keeps r.2 hr

theorem ite {p : Prop} [Decidable p] {n : StateT σ (Except Error) α} (hm : Runs wall I m)
    (hn : Runs wall I n) : Runs wall I (if p then m else n) := by
  split
  · exact hm
  · exact hn

theorem mapM {f : β → StateT σ (Except Error) α} (hf : ∀ b, Runs wall I (f b)) (bs : List β) :
    Runs wall I (bs.mapM f) := by
  induction bs with
  | nil => exact pure []
  | cons b bs ih =>
    rw [List.mapM_cons]
    exact (hf b).bind fun _ => ih.bind fun _ => pure _

end Runs

end ThreeBlock.Yaml
