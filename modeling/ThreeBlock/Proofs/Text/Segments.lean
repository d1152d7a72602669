-- The laws of cutting and trimming. Pieces without the separator come back when
-- their join is cut, and text without blanks is trimmed already.
import Mathlib.Data.List.Basic
import ThreeBlock.Proofs.Identifier
import ThreeBlock.Text.Segments
namespace ThreeBlock.Text

/-! ## Cutting -/

theorem cut_eq_splitOn {α : Type} [DecidableEq α] (sep : α) (cs : List α) :
    cut sep cs = cs.splitOn sep := by
  induction cs with
  | nil => rfl
  | cons c cs ih =>
    rw [cut, List.splitOn_cons_eq_if_modifyHead, ih]
    have hne := List.splitOn_ne_nil sep cs
    simp only [beq_iff_eq]
    split
    · rfl
    · cases h : cs.splitOn sep with
      | nil => exact absurd h hne
      | cons p ps => rfl

/-- The pieces of a join are the pieces of its two sides. -/
theorem cut_append_cons {α : Type} [DecidableEq α] (sep : α) (as bs : List α) :
    cut sep (as ++ sep :: bs) = cut sep as ++ cut sep bs := by
  induction as with
  | nil => exact if_pos rfl
  | cons a as ih =>
    rw [List.cons_append, cut, cut, ih]
    split
    · rfl
    · cases h : cut sep as with
      | nil => exact absurd h (cut_ne_nil sep as)
      | cons p ps => rfl

theorem not_mem_of_mem_cut {α : Type} [DecidableEq α] {sep : α} {cs p : List α}
    (h : p ∈ cut sep cs) : sep ∉ p := by
  induction cs generalizing p with
  | nil => simp_all [cut]
  | cons c cs ih =>
    rw [cut] at h
    split at h
    · rcases List.mem_cons.1 h with rfl | h
      · exact List.not_mem_nil
      · exact ih h
    · next hc =>
      cases hcut : cut sep cs with
      | nil => exact absurd hcut (cut_ne_nil sep cs)
      | cons q qs =>
        rw [hcut] at h ih
        rcases List.mem_cons.1 h with rfl | h
        · simp [Ne.symm hc, ih List.mem_cons_self]
        · exact ih (List.mem_cons_of_mem _ h)

/-- The pieces joined with the separator give the text back. -/
theorem intercalate_cut {α : Type} [DecidableEq α] (sep : α) (cs : List α) :
    [sep].intercalate (cut sep cs) = cs := by
  rw [cut_eq_splitOn]
  exact List.intercalate_splitOn sep

/-- Pieces without the separator come back when their join is cut. -/
theorem cut_intercalate {α : Type} [DecidableEq α] {sep : α} {pieces : List (List α)}
    (hsep : ∀ p ∈ pieces, sep ∉ p) (hne : pieces ≠ []) :
    cut sep ([sep].intercalate pieces) = pieces := by
  rw [cut_eq_splitOn]
  exact List.splitOn_intercalate sep hsep hne

/-! ## Cutting at a longer separator -/

section CutAtText

variable {sep : Char} {seps cs : List Char}

theorem cutAtText_skip (seps cs rest : List Char) :
    cutAtText seps cs.length (cs ++ rest) = cutAtText seps 0 rest := by
  induction cs with
  | nil => rfl
  | cons c cs ih => rw [List.length_cons, List.cons_append, cutAtText, ih]

/-- A piece without the first character of the separator ends where the separator is. -/
theorem cutAtText_append (h : sep ∉ cs) (rest : List Char) :
    cutAtText (sep :: seps) 0 (cs ++ (sep :: seps ++ rest)) =
      cs :: cutAtText (sep :: seps) 0 rest := by
  induction cs with
  | nil =>
    have hhere : (sep :: seps).isPrefixOf (sep :: (seps ++ rest)) = true := by
      rw [List.isPrefixOf_iff_prefix]
      exact List.prefix_append (sep :: seps) rest
    rw [List.nil_append, List.cons_append, cutAtText, if_pos hhere, List.length_cons,
      Nat.add_sub_cancel, cutAtText_skip]
  | cons c cs ih =>
    rw [List.mem_cons, not_or] at h
    rw [List.cons_append, cutAtText, if_neg (by simp [h.1]), ih h.2]
    rfl

theorem cutAtText_of_not_mem (h : sep ∉ cs) : cutAtText (sep :: seps) 0 cs = [cs] := by
  induction cs with
  | nil => rfl
  | cons c cs ih =>
    rw [List.mem_cons, not_or] at h
    rw [cutAtText, if_neg (by simp [h.1]), ih h.2]
    rfl

/-- Pieces without the first character of a separator come back from their join. -/
theorem cutAtText_intercalate {pieces : List (List Char)} (h : ∀ p ∈ pieces, sep ∉ p)
    (hne : pieces ≠ []) :
    cutAtText (sep :: seps) 0 ((sep :: seps).intercalate pieces) = pieces := by
  induction pieces with
  | nil => exact absurd rfl hne
  | cons p ps ih =>
    obtain ⟨hp, hps⟩ := List.forall_mem_cons.1 h
    cases ps with
    | nil =>
      rw [List.intercalate_singleton]
      exact cutAtText_of_not_mem hp
    | cons q qs =>
      rw [List.intercalate_cons_cons, List.append_assoc, cutAtText_append hp,
        ih hps (List.cons_ne_nil q qs)]

end CutAtText

/-! ## Trimming -/

theorem trimEnd_concat {cs : List Char} {c : Char} (h : isBlank c = false) :
    trimEnd (cs ++ [c]) = cs ++ [c] := by
  simp [trimEnd, h]

theorem trimEnd_of_inked {cs : List Char} (h : ∀ c ∈ cs, isBlank c = false) :
    trimEnd cs = cs := by
  rcases List.eq_nil_or_concat cs with rfl | ⟨ds, d, rfl⟩
  · rfl
  · rw [List.concat_eq_append] at h ⊢
    exact trimEnd_concat (h d (by simp))

/-- Text without blanks is trimmed already. -/
theorem trim_of_inked {cs : List Char} (h : ∀ c ∈ cs, isBlank c = false) : trim cs = cs := by
  have hstart : trimStart cs = cs := by
    cases cs with
    | nil => rfl
    | cons c cs => rw [trimStart_cons, if_neg (by simp [h c])]
  rw [trim, hstart, trimEnd_of_inked h]

/-! ## Segments -/

/-- Text that stands as a segment by itself: not empty, without blanks and
without a semicolon. -/
structure IsSegment (s : String) : Prop where
  nonempty : s ≠ ""
  inked : ∀ c ∈ s.toList, isBlank c = false
  whole : ';' ∉ s.toList

/-- Text that may be a segment: not empty, with ink at both of its ends and without a
semicolon. -/
structure IsTrimmed (s : String) : Prop where
  nonempty : s ≠ ""
  first : ∀ c, s.toList.head? = some c → isBlank c = false
  last : ∀ c, s.toList.getLast? = some c → isBlank c = false
  whole : ';' ∉ s.toList

theorem IsSegment.isTrimmed {s : String} (h : IsSegment s) : IsTrimmed s :=
  ⟨h.nonempty, fun c hc => h.inked c (List.mem_of_mem_head? hc),
    fun c hc => h.inked c (List.mem_of_getLast? hc), h.whole⟩

theorem IsTrimmed.trim_eq {s : String} (h : IsTrimmed s) : trim s.toList = s.toList := by
  have hstart : trimStart s.toList = s.toList := by
    cases hcs : s.toList with
    | nil => rfl
    | cons c cs => rw [trimStart_cons, if_neg (by simp [h.first c (by rw [hcs]; rfl)])]
  rw [trim, hstart]
  rcases List.eq_nil_or_concat s.toList with hnil | ⟨ds, d, hds⟩
  · rw [hnil]
    rfl
  · rw [hds, List.concat_eq_append]
    exact trimEnd_concat (h.last d (by simp [hds]))

end ThreeBlock.Text

namespace ThreeBlock

theorem IsWord.isSegment {s : String} (h : IsWord s) : Text.IsSegment s :=
  ⟨h.nonempty, fun c hc => isBlank_of_isIdentifierPart (h.part c hc), h.not_mem (by decide)⟩

end ThreeBlock
