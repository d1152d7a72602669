-- The reading of scalars never leaves the text: the place behind a scalar is in front
-- of the same wall, and so is every error on the way.
import ThreeBlock.Proofs.Yaml.Wall
namespace ThreeBlock.Yaml

/-- A reading that goes on in front of the wall. -/
abbrev Stays {α : Type} (wall : Option Error) (x : Except Error (α × Cursor)) : Prop :=
  Keeps wall (fun r => r.2.wall = wall) x

variable {wall : Option Error} {c : Cursor}

/-! ## Plain -/

theorem wall_blankBreaks (n : Nat) (acc : List Char) (c : Cursor) :
    (blankBreaks n acc c).2.wall = c.wall := by
  induction n generalizing acc c with
  | zero => rfl
  | succ n ih =>
    unfold blankBreaks
    split
    · rw [ih, Cursor.wall_advance]
    · split
      · rfl
      · next b after hbreak =>
        split
        · exact Cursor.wall_takeBreak hbreak
        · rw [ih, Cursor.wall_takeBreak hbreak]

theorem wall_plainGap (c : Cursor) : (plainGap c).after.wall = c.wall := by
  unfold plainGap
  dsimp only
  split
  · exact Cursor.wall_takeWhile _ c
  · next b after hbreak =>
    have hafter : after.wall = c.wall :=
      (Cursor.wall_takeBreak hbreak).trans (Cursor.wall_takeWhile _ c)
    split
    · exact hafter
    · have hblank := wall_blankBreaks after.bound [] after
      split
      · next last heq =>
        rw [heq] at hblank
        exact hblank.trans hafter
      · next more last heq =>
        rw [heq] at hblank
        exact hblank.trans hafter

theorem wall_plainFrom (inFlow : Bool) (indent : Int) (n : Nat) (p : Plain) (gap : List Char) :
    (plainFrom inFlow indent n p gap).after.wall = p.after.wall := by
  induction n generalizing p gap with
  | zero => rfl
  | succ n ih =>
    unfold plainFrom
    dsimp only
    split
    · rfl
    · split
      · rw [wall_plainGap, Cursor.wall_skip]
      · rw [ih, wall_plainGap, Cursor.wall_skip]

theorem wall_plainScalar (inFlow : Bool) (indent : Int) (c : Cursor) :
    (plainScalar inFlow indent c).after.wall = c.wall := wall_plainFrom ..

/-! ## Between quotes -/

theorem keeps_codePoint (code : Nat) : Keeps wall (fun _ => True) (codePoint code) := by
  unfold codePoint
  split
  · exact .own rfl
  · split
    · exact .own rfl
    · exact .ok trivial

theorem stays_quotedBreaks (n : Nat) (acc : List Char) (hc : c.wall = wall) :
    Stays wall (quotedBreaks n acc c) := by
  induction n generalizing acc c with
  | zero => exact .ok hc
  | succ n ih =>
    unfold quotedBreaks
    refine (keeps_reach hc _).bind fun _ _ => ?_
    split
    · exact keeps_refuse hc rfl
    · dsimp only
      have hskip : (c.skipWhile fun ch => ch = ' ' || ch = '\t').wall = wall := by simp [hc]
      split
      · exact .ok hskip
      · next b after hbreak => exact ih _ ((Cursor.wall_takeBreak hbreak).trans hskip)

theorem stays_quotedEscape (hc : c.wall = wall) : Stays wall (quotedEscape c) := by
  unfold quotedEscape
  split
  · exact .ok (by simp [hc])
  · dsimp only
    split
    · exact keeps_refuse (by simp [hc]) rfl
    · exact (keeps_codePoint _).map fun _ _ => by simp [hc]
  · split
    · next b after hbreak =>
      exact (stays_quotedBreaks _ [] ((Cursor.wall_takeBreak hbreak).trans hc)).map fun _ h => h
    · exact keeps_refuse hc rfl

theorem stays_quotedRun (double : Bool) (n : Nat) (acc : List Text.Points) (hc : c.wall = wall) :
    Stays wall (quotedRun double n acc c) := by
  induction n generalizing acc c with
  | zero => exact .ok hc
  | succ n ih =>
    unfold quotedRun
    dsimp only
    apply Keeps.ite
    · exact ih _ (by simp [hc])
    · apply Keeps.ite
      · exact (stays_quotedEscape (by simp [hc])).bind fun r hr => ih _ hr
      · apply Keeps.ite
        · exact .ok hc
        · exact ih _ (by simp [hc])

theorem stays_quotedGap (hc : c.wall = wall) : Stays wall (quotedGap c) := by
  unfold quotedGap
  dsimp only
  have hblanks : (c.takeWhile fun ch => ch = ' ' || ch = '\t').2.wall = wall := by simp [hc]
  split
  · exact keeps_refuse hblanks rfl
  · split
    · exact .ok hblanks
    · next b after hbreak =>
      have hafter := (Cursor.wall_takeBreak hbreak).trans hblanks
      exact (stays_quotedBreaks _ [] hafter).bind fun r hr => .ok hr

theorem stays_quotedFrom (double : Bool) (n : Nat) (acc : List Text.Points)
    (hc : c.wall = wall) : Stays wall (quotedFrom double n acc c) := by
  induction n generalizing acc c with
  | zero => exact .own rfl
  | succ n ih =>
    unfold quotedFrom
    refine (stays_quotedRun double _ acc hc).bind fun r hr => ?_
    dsimp only
    apply Keeps.ite
    · exact .ok ((Cursor.wall_advance _).trans hr)
    · exact (stays_quotedGap hr).bind fun gap hgap => ih _ hgap

theorem stays_quotedScalar (double : Bool) (hc : c.wall = wall) :
    Stays wall (quotedScalar double c) :=
  stays_quotedFrom double _ [] (by simp [hc])

/-! ## As a block -/

theorem wall_chompingSign {chomping : Chomping} {after : Cursor}
    (h : chompingSign c = some (chomping, after)) : after.wall = c.wall := by
  unfold chompingSign at h
  split at h
  · cases h
    exact Cursor.wall_advance c
  · split at h
    · cases h
      exact Cursor.wall_advance c
    · cases h

theorem stays_indentDigit (hc : c.wall = wall) : Stays wall (indentDigit c) := by
  unfold indentDigit
  dsimp only
  split
  · exact keeps_refuse hc rfl
  · split
    · exact .ok (by simp [hc])
    · exact .ok hc

/-- The place behind the break ahead, or the same place. -/
theorem wall_behindBreak (c : Cursor) :
    (match c.takeBreak with | some (_, c) => c | none => c).wall = c.wall := by
  split
  · next b after hbreak => exact Cursor.wall_takeBreak hbreak
  · rfl

/-- The rest of the line of the header of a block. -/
theorem keeps_headerEnd {chomping : Chomping} {digit : Option Nat} (hc : c.wall = wall) :
    Keeps wall (fun r => r.2.2.wall = wall)
      (if c.peek ≠ ' ' && !isBreakOrEnd c.peek then c.refuse .badBlockHeader
      else
        let c := (c.skipWhile (· = ' ')).skipComment
        if isBreakOrEnd c.peek then
          return (chomping, digit, match c.takeBreak with | some (_, c) => c | none => c)
        else c.refuse .badBlockHeader) := by
  apply Keeps.ite
  · exact keeps_refuse hc rfl
  · have hline : ((c.skipWhile (· = ' ')).skipComment).wall = wall := by simp [hc]
    apply Keeps.ite
    · exact .ok ((wall_behindBreak _).trans hline)
    · exact keeps_refuse hline rfl

theorem keeps_blockHeader (hc : c.wall = wall) :
    Keeps wall (fun r => r.2.2.wall = wall) (blockHeader c) := by
  unfold blockHeader
  dsimp only
  split
  · next chomping after hsign =>
    refine (stays_indentDigit ((wall_chompingSign hsign).trans hc)).bind fun r hr => ?_
    exact keeps_headerEnd hr
  · refine (stays_indentDigit hc).bind fun r hr => ?_
    split
    · next chomping after hsign => exact keeps_headerEnd ((wall_chompingSign hsign).trans hr)
    · exact keeps_headerEnd hr

theorem wall_blockTop (n : Nat) (acc : List Char) (widest : Nat) (c : Cursor) :
    (blockTop n acc widest c).2.2.wall = c.wall := by
  induction n generalizing acc widest c with
  | zero => rfl
  | succ n ih =>
    unfold blockTop
    dsimp only
    split
    · rw [ih, Cursor.wall_advance]
    · split
      · next b after hbreak => rw [ih, Cursor.wall_takeBreak hbreak]
      · rfl

@[simp] theorem wall_toColumn (indent n : Nat) (c : Cursor) :
    (toColumn indent n c).wall = c.wall := by
  induction n generalizing c with
  | zero => rfl
  | succ n ih =>
    unfold toColumn
    split
    · rw [ih, Cursor.wall_advance]
    · rfl

theorem wall_blockBreaks (indent n : Nat) (acc : List Char) (c : Cursor) :
    (blockBreaks indent n acc c).2.wall = c.wall := by
  induction n generalizing acc c with
  | zero => rfl
  | succ n ih =>
    unfold blockBreaks
    dsimp only
    split
    · next b after hbreak => rw [ih, Cursor.wall_takeBreak hbreak, wall_toColumn]
    · exact wall_toColumn ..

theorem wall_blockLines (folded : Bool) (chomping : Chomping) (indent n : Nat)
    (acc : List (List Char)) (breaks : List Char) (c : Cursor) :
    (blockLines folded chomping indent n acc breaks c).2.wall = c.wall := by
  induction n generalizing acc breaks c with
  | zero => rfl
  | succ n ih =>
    unfold blockLines
    have hline : (c.takeWhile fun ch => !isBreak ch).2.wall = c.wall := Cursor.wall_takeWhile _ c
    cases hbreak : (c.takeWhile fun ch => !isBreak ch).2.takeBreak with
    | none =>
      dsimp only
      rw [hbreak]
      dsimp only
      split
      · rw [ih, wall_blockBreaks, hline]
      · exact (wall_blockBreaks ..).trans hline
    | some r =>
      have hafter := (Cursor.wall_takeBreak hbreak).trans hline
      dsimp only
      rw [hbreak]
      dsimp only
      split
      · rw [ih, wall_blockBreaks, hafter]
      · exact (wall_blockBreaks ..).trans hafter

theorem stays_blockScalar (folded : Bool) (outer : Int) (hc : c.wall = wall) :
    Stays wall (blockScalar folded outer c) := by
  unfold blockScalar
  refine (keeps_blockHeader ((Cursor.wall_advance c).trans hc)).bind fun r hr => ?_
  obtain ⟨chomping, digit, after⟩ := r
  cases digit with
  | none =>
    have htop := (wall_blockTop after.bound [] 0 after).trans hr
    dsimp only
    apply Keeps.ite
    · exact .ok ((wall_blockLines ..).trans htop)
    · exact .ok htop
  | some d =>
    have htop := (wall_blockBreaks (max 1 (outer + 1).toNat + d - 1) after.bound [] after).trans hr
    dsimp only
    apply Keeps.ite
    · exact .ok ((wall_blockLines ..).trans htop)
    · exact .ok htop

end ThreeBlock.Yaml
