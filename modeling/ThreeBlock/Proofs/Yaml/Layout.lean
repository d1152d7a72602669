-- Tokens are told up to the wall: of the steps through a text none leaves it, and the
-- error that keeps the rest of the tokens away is the reader's own or that of the wall.
import ThreeBlock.Proofs.Yaml.Token
import ThreeBlock.Yaml.Layout
namespace ThreeBlock.Yaml

namespace Layout

/-- A step to a state in front of the wall. -/
abbrev Stands (wall : Option Error) (x : Except Error Layout) : Prop :=
  Keeps wall (fun s => s.here.wall = wall) x

variable {wall : Option Error} {s : Layout}

/-! ## What leaves the place as it is -/

@[simp] theorem here_push (s : Layout) (t : Token) : (s.push t).here = s.here := rfl

@[simp] theorem here_insertAfter (s : Layout) (n : Nat) (t : Token) :
    (s.insertAfter n t).here = s.here := rfl

@[simp] theorem here_dropSpot (s : Layout) : s.dropSpot.here = s.here := rfl

@[simp] theorem here_closeBlocks (column : Int) (n : Nat) (s : Layout) :
    (closeBlocks column n s).here = s.here := by
  induction n generalizing s with
  | zero => rfl
  | succ n ih =>
    unfold closeBlocks
    split
    · exact ih _
    · rfl

@[simp] theorem here_unwind (s : Layout) (column : Int) : (s.unwind column).here = s.here := by
  unfold unwind
  split
  · exact here_closeBlocks ..
  · rfl

theorem here_openBlock {column : Int} {t : Layout} (h : s.openBlock column = some t) :
    t.here = s.here := by
  unfold openBlock at h
  split at h
  · cases h
    rfl
  · cases h

@[simp] theorem here_openHere (s : Layout) (t : Token) : (s.openHere t).here = s.here := by
  unfold openHere
  split
  · next opened hopen => exact (here_push opened t).trans (here_openBlock hopen)
  · rfl

theorem stands_giveUpSpot (hs : s.here.wall = wall) : Stands wall s.giveUpSpot := by
  unfold giveUpSpot
  split
  · exact .ok hs
  · split
    · exact .own rfl
    · exact .ok hs

theorem stands_markSpot (hs : s.here.wall = wall) : Stands wall s.markSpot := by
  unfold markSpot
  split
  · exact (stands_giveUpSpot hs).bind fun t ht => .ok ht
  · exact .ok hs

theorem stands_dropStale (hs : s.here.wall = wall) : Stands wall s.dropStale := by
  unfold dropStale
  split
  · exact .own rfl
  · exact .ok hs

/-! ## Blanks -/

theorem wall_skipBlanks (n : Nat) (s : Layout) : (skipBlanks n s).here.wall = s.here.wall := by
  induction n generalizing s with
  | zero => rfl
  | succ n ih =>
    unfold skipBlanks
    dsimp only
    split
    · next b after hbreak =>
      rw [ih]
      exact (Cursor.wall_takeBreak hbreak).trans (by simp)
    · simp

@[simp] theorem wall_skipMark (s : Layout) : s.skipMark.here.wall = s.here.wall := by
  unfold skipMark
  split <;> simp

/-! ## Marks -/

theorem stands_documentMark {after : Cursor} (hs : s.here.wall = wall)
    (hafter : after.wall = wall) (t : Token) : Stands wall (s.documentMark t after) := by
  unfold documentMark
  exact (stands_giveUpSpot (by simp [hs])).bind fun _ _ => .ok hafter

theorem stands_openBracket (hs : s.here.wall = wall) (t : Token) :
    Stands wall (s.openBracket t) := by
  unfold openBracket
  exact (stands_markSpot hs).bind fun _ h => .ok ((Cursor.wall_advance _).trans h)

theorem stands_closeBracket (hs : s.here.wall = wall) (t : Token) :
    Stands wall (s.closeBracket t) := by
  unfold closeBracket
  refine (stands_giveUpSpot hs).bind fun _ h => ?_
  apply Keeps.ite
  · exact .own rfl
  · exact .ok ((Cursor.wall_advance _).trans h)

theorem stands_comma (hs : s.here.wall = wall) : Stands wall s.comma := by
  unfold comma
  exact (stands_giveUpSpot hs).bind fun _ h => .ok ((Cursor.wall_advance _).trans h)

theorem stands_dash (hs : s.here.wall = wall) : Stands wall s.dash := by
  unfold dash
  apply Keeps.ite
  · exact .own rfl
  · refine (stands_giveUpSpot ?_).bind fun _ h => .ok ((Cursor.wall_advance _).trans h)
    split <;> simp [hs]

theorem stands_question (hs : s.here.wall = wall) : Stands wall s.question := by
  unfold question
  apply Keeps.ite
  · exact .own rfl
  · refine (stands_giveUpSpot ?_).bind fun _ h => .ok ((Cursor.wall_advance _).trans h)
    split <;> simp [hs]

theorem stands_colon (hs : s.here.wall = wall) : Stands wall s.colon := by
  unfold colon
  split
  · next k hspot =>
    refine .ok ((Cursor.wall_advance _).trans ?_)
    split
    · split
      · next opened hopen => rw [here_insertAfter, here_openBlock hopen, here_insertAfter,
          here_dropSpot, hs]
      · simp [hs]
    · simp [hs]
  · apply Keeps.ite
    · exact .own rfl
    · refine .ok ((Cursor.wall_advance _).trans ?_)
      split <;> simp [hs]

/-! ## Content -/

theorem stands_content {read : Cursor → Except Error (Token × Cursor)} (hs : s.here.wall = wall)
    (hread : ∀ {c : Cursor}, c.wall = wall → Stays wall (read c)) :
    Stands wall (s.content read) := by
  unfold content
  refine (stands_markSpot hs).bind fun _ h => ?_
  exact (hread h).bind fun _ h => .ok h

theorem stays_scalarToken {r : Except Error (Text.Points × Cursor)} (h : Stays wall r) :
    Stays wall (scalarToken r) := h.map fun _ h => h

theorem keeps_reachBehind {after : Cursor} (h : after.wall = wall) (line : Nat) :
    Keeps wall (fun _ => True) (reachBehind line after) := by
  have hcolon : Keeps wall (fun _ => True)
      (if after.peek = ':' then after.reach 2 else pure PUnit.unit) := by
    apply Keeps.ite
    · exact keeps_reach h 2
    · exact .ok trivial
  unfold reachBehind
  apply Keeps.ite
  · exact (keeps_reach h _).bind fun _ _ => hcolon
  · exact hcolon

theorem stands_plain (hs : s.here.wall = wall) : Stands wall s.plain := by
  unfold plain
  refine (stands_markSpot hs).bind fun t ht => ?_
  have hafter : (plainScalar (t.depth ≠ 0) (t.indent + 1) t.here).after.wall = wall :=
    (wall_plainScalar ..).trans ht
  exact (keeps_reachBehind hafter _).bind fun _ _ => .ok hafter

theorem stands_block (hs : s.here.wall = wall) (folded : Bool) : Stands wall (s.block folded) := by
  unfold block
  refine (stands_giveUpSpot hs).bind fun t ht => ?_
  exact (stays_scalarToken (stays_blockScalar folded _ ht)).bind fun _ h => .ok h

/-! ## One token after the other -/

theorem stands_finish (hs : s.here.wall = wall) : Stands wall s.finish := by
  unfold finish
  exact (stands_giveUpSpot (by simp [hs])).bind fun _ h => .ok h

theorem stands_next (hs : s.here.wall = wall) : Stands wall s.next := by
  unfold next
  refine (keeps_reach hs _).bind fun _ _ => ?_
  dsimp only
  apply Keeps.ite
  · refine (stays_directiveToken hs).bind fun r hr => ?_
    exact stands_documentMark hs hr _
  apply Keeps.ite
  · exact stands_documentMark hs ((Cursor.wall_skip ..).trans hs) _
  apply Keeps.ite
  · exact stands_openBracket hs _
  apply Keeps.ite
  · exact stands_openBracket hs _
  apply Keeps.ite
  · exact stands_closeBracket hs _
  apply Keeps.ite
  · exact stands_closeBracket hs _
  apply Keeps.ite
  · exact stands_comma hs
  apply Keeps.ite
  · exact stands_dash hs
  apply Keeps.ite
  · exact stands_question hs
  apply Keeps.ite
  · exact stands_colon hs
  apply Keeps.ite
  · exact stands_content hs fun hc => (stays_anchorName hc).map fun _ h => h
  apply Keeps.ite
  · exact stands_content hs fun hc => (stays_anchorName hc).map fun _ h => h
  apply Keeps.ite
  · exact stands_content hs stays_tagToken
  apply Keeps.ite
  · exact stands_block hs false
  apply Keeps.ite
  · exact stands_block hs true
  apply Keeps.ite
  · exact stands_content hs fun hc => stays_scalarToken (stays_quotedScalar false hc)
  apply Keeps.ite
  · exact stands_content hs fun hc => stays_scalarToken (stays_quotedScalar true hc)
  apply Keeps.ite
  · exact stands_plain hs
  · exact (keeps_reach hs 2).bind fun _ _ => .own rfl

theorem keeps_step (hs : s.here.wall = wall) :
    Keeps wall (fun r => r.1.here.wall = wall) s.step := by
  unfold step
  refine (stands_dropStale hs).bind fun s hs => ?_
  have hblank : (skipBlanks s.here.bound s.skipMark).here.wall = wall := by
    rw [wall_skipBlanks, wall_skipMark, hs]
  refine (keeps_reach hblank 1).bind fun _ _ => ?_
  refine (stands_dropStale hblank).bind fun s hs => ?_
  have hunwound : (s.unwind s.here.column).here.wall = wall := by rw [here_unwind, hs]
  apply Keeps.ite
  · exact (stands_finish hunwound).bind fun _ h => .ok h
  · refine (stands_next hunwound).bind fun s hs => ?_
    exact (keeps_reach hs 1).bind fun _ _ => .ok hs

theorem fits_run {n : Nat} {e : Error} (hs : s.here.wall = wall)
    (h : (run n s).trouble = some e) : e.Fits wall := by
  induction n generalizing s with
  | zero => cases h
  | succ n ih =>
    unfold run at h
    have hstep := keeps_step hs
    cases hresult : s.step with
    | ok r =>
      rw [hresult] at h hstep
      dsimp only at h
      split at h
      · cases h
      · cases hstep with
        | ok hr => exact ih hr h
    | error e' =>
      rw [hresult] at h hstep
      cases h
      exact hstep.fits

end Layout

/-- The trouble behind the tokens of a text fits its wall. -/
theorem Tokens.fits_ofText {text : List Char} {wall : Option Error} {e : Error}
    (h : (Tokens.ofText text wall).trouble = some e) : e.Fits wall := Layout.fits_run rfl h

end ThreeBlock.Yaml
