-- Lines put together and taken apart. Lines with text and without breaks of their own
-- come back when line feeds stand between them, and the lines with ink before a break
-- hang on nothing behind it.
import Mathlib.Data.List.Basic
import ThreeBlock.Text.Blank
import ThreeBlock.Text.Lines
namespace ThreeBlock.Text

/-- Text without a line break. -/
def IsUnbroken (cs : List Char) : Prop := ∀ c ∈ cs, isLineBreak c = false

instance (cs : List Char) : Decidable (IsUnbroken cs) :=
  decidable_of_iff ((cs.all fun c => !isLineBreak c) = true) (by simp [IsUnbroken])

theorem lines_cons {c : Char} (h : isLineBreak c = false) (cs : List Char) :
    lines (c :: cs) = ontoFirst c (lines cs) := by
  have hreturn : c ≠ '\r' := by
    rintro rfl
    exact absurd h (by decide)
  rw [lines, if_neg (by simp [h])]
  rintro ds rfl
  exact absurd rfl hreturn

theorem lines_feed (cs : List Char) : lines ('\n' :: cs) = [] :: lines cs := by
  rw [lines]
  · rfl
  · simp

theorem lines_append_feed {line : List Char} (h : IsUnbroken line) (rest : List Char) :
    lines (line ++ '\n' :: rest) = line :: lines rest := by
  induction line with
  | nil => exact lines_feed rest
  | cons c cs ih =>
    obtain ⟨hc, hcs⟩ := List.forall_mem_cons.1 h
    rw [List.cons_append, lines_cons hc, ih hcs]
    rfl

theorem lines_of_isUnbroken {line : List Char} (h : IsUnbroken line) (hne : line ≠ []) :
    lines line = [line] := by
  induction line with
  | nil => exact absurd rfl hne
  | cons c cs ih =>
    obtain ⟨hc, hcs⟩ := List.forall_mem_cons.1 h
    rw [lines_cons hc]
    by_cases hnil : cs = []
    · subst hnil
      rfl
    · rw [ih hcs hnil]
      rfl

/-- Lines come back from their join. -/
theorem lines_intercalate {ls : List (List Char)} (h : ∀ l ∈ ls, IsUnbroken l)
    (hne : ∀ l ∈ ls, l ≠ []) : lines (['\n'].intercalate ls) = ls := by
  induction ls with
  | nil => rfl
  | cons l ls ih =>
    obtain ⟨hl, hls⟩ := List.forall_mem_cons.1 h
    obtain ⟨hlne, hlsne⟩ := List.forall_mem_cons.1 hne
    cases ls with
    | nil =>
      rw [List.intercalate_singleton]
      exact lines_of_isUnbroken hl hlne
    | cons m ms =>
      rw [List.intercalate_cons_cons, List.append_assoc, List.singleton_append,
        lines_append_feed hl, ih hls hlsne]

/-- What breaks a line is blank. -/
theorem isLineBreak_of_not_isBlank {c : Char} (h : isBlank c = false) : isLineBreak c = false := by
  rw [Bool.eq_false_iff] at h ⊢
  intro hbreak
  apply h
  simp only [isLineBreak, lineBreaks, List.contains_iff_mem, List.mem_cons, List.not_mem_nil,
    or_false] at hbreak
  simp only [isBlank, inRanges, blankRanges, List.any_cons, List.any_nil, Bool.or_eq_true,
    Bool.and_eq_true, decide_eq_true_eq]
  omega

/-! ## Lines with ink -/

/-- The lines of a text that hold ink. -/
def inked (cs : List Char) : List (List Char) := (lines cs).filter hasInk

/-- The first of some lines, none standing for a blank one, and the inked ones behind it. -/
theorem filter_hasInk_eq (ls : List (List Char)) :
    ls.filter hasInk = [ls.headD []].filter hasInk ++ ls.tail.filter hasInk := by
  cases ls with
  | nil => rfl
  | cons l ls =>
    rw [List.headD_cons, List.tail_cons, ← List.filter_append, List.singleton_append]

/-- Lines and the pieces between breaks start alike. They part only in blank pieces: one
between a carriage return and its line feed, and one behind a break at the end. -/
theorem lines_like_splitOnP (cs : List Char) :
    (lines cs).headD [] = (cs.splitOnP isLineBreak).headD [] ∧
      (lines cs).tail.filter hasInk = (cs.splitOnP isLineBreak).tail.filter hasInk := by
  induction cs using lines.induct with
  | case1 => exact ⟨rfl, rfl⟩
  | case2 cs ih =>
    have hfeed : ('\n' :: cs).splitOnP isLineBreak = [] :: cs.splitOnP isLineBreak := by
      rw [List.splitOnP_cons_eq_if_modifyHead, if_pos (by decide)]
    rw [lines, List.splitOnP_cons_eq_if_modifyHead, if_pos (by decide), hfeed]
    refine ⟨rfl, ?_⟩
    rw [List.tail_cons, List.tail_cons, filter_hasInk_eq, ih.1, ih.2, ← filter_hasInk_eq]
    rfl
  | case3 c cs hpair hbreak ih =>
    rw [lines, if_pos hbreak, List.splitOnP_cons_eq_if_modifyHead, if_pos hbreak]
    · refine ⟨rfl, ?_⟩
      rw [List.tail_cons, List.tail_cons, filter_hasInk_eq, ih.1, ih.2, ← filter_hasInk_eq]
    · exact hpair
  | case4 c cs hpair hbreak ih =>
    have hplain : isLineBreak c = false := by simpa using hbreak
    rw [lines_cons hplain, List.splitOnP_cons_eq_if_modifyHead, if_neg hbreak]
    obtain ⟨p, ps, hps⟩ := List.exists_cons_of_ne_nil (List.splitOnP_ne_nil isLineBreak cs)
    rw [hps] at ih ⊢
    cases hls : lines cs with
    | nil => simpa [hls, ontoFirst] using ih
    | cons l ls => simpa [hls, ontoFirst] using ih

theorem inked_eq (cs : List Char) : inked cs = (cs.splitOnP isLineBreak).filter hasInk := by
  obtain ⟨hhead, htail⟩ := lines_like_splitOnP cs
  rw [inked, filter_hasInk_eq, hhead, htail, ← filter_hasInk_eq]

/-- A break parts the lines with ink before it from those behind it, whatever it is
and wherever it stands. -/
theorem inked_append_break {c : Char} (h : isLineBreak c = true) (as bs : List Char) :
    inked (as ++ c :: bs) = inked as ++ inked bs := by
  rw [inked_eq, inked_eq, inked_eq, List.splitOnP_append_cons as bs h, List.filter_append]

theorem inked_of_isUnbroken {cs : List Char} (h : IsUnbroken cs) :
    inked cs = [cs].filter hasInk := by
  rw [inked_eq, List.splitOnP_eq_singleton h]

end ThreeBlock.Text
