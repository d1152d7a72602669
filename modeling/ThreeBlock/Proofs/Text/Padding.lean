-- Blanks around segments. A segment may have blanks on both of its sides, and
-- pieces of blanks alone may stand anywhere between the segments: the text comes
-- to the same segments.
import Mathlib.Data.List.TakeWhile
import ThreeBlock.Proofs.Text.Segments
namespace ThreeBlock.Text

/-! ## Gaps -/

/-- Text of blanks alone. -/
def IsGap (cs : List Char) : Prop := ∀ c ∈ cs, isBlank c = true

instance (cs : List Char) : Decidable (IsGap cs) :=
  decidable_of_iff (cs.all isBlank = true) List.all_eq_true

theorem trimStart_gap_append {gap : List Char} (h : IsGap gap) (cs : List Char) :
    trimStart (gap ++ cs) = trimStart cs :=
  List.dropWhile_append_of_pos h

theorem trimEnd_append_gap {gap : List Char} (h : IsGap gap) (cs : List Char) :
    trimEnd (cs ++ gap) = trimEnd cs := by
  have hback : ∀ c ∈ gap.reverse, isBlank c = true := fun c hc => h c (List.mem_reverse.1 hc)
  rw [trimEnd, List.reverse_append, List.dropWhile_append_of_pos hback, ← trimEnd]

theorem trim_gap {gap : List Char} (h : IsGap gap) : trim gap = [] := by
  have hstart := trimStart_gap_append h []
  rw [List.append_nil] at hstart
  rw [trim, hstart]
  rfl

/-- Gaps around a text do not count when it is trimmed. -/
theorem trim_between_gaps {before after : List Char} (hbefore : IsGap before)
    (hafter : IsGap after) (cs : List Char) : trim (before ++ cs ++ after) = trim cs := by
  rw [List.append_assoc, trim, trimStart_gap_append hbefore]
  by_cases hgap : IsGap cs
  · rw [trimStart_gap_append hgap, trim_gap hgap]
    exact trim_gap hafter
  · have hstart : trimStart (cs ++ after) = trimStart cs ++ after := by
      refine List.dropWhile_append.trans (if_neg ?_)
      rw [List.isEmpty_iff, List.dropWhile_eq_nil_iff]
      exact hgap
    rw [hstart, trimEnd_append_gap hafter, trim]

theorem exists_gap_behind (cs : List Char) :
    ∃ gap, IsGap gap ∧ cs = trimEnd cs ++ gap := by
  refine ⟨(cs.reverse.takeWhile isBlank).reverse,
    fun c hc => List.mem_takeWhile_imp (List.mem_reverse.1 hc), ?_⟩
  rw [trimEnd, ← List.reverse_append, List.takeWhile_append_dropWhile, List.reverse_reverse]

/-- A text is what is left when it is trimmed, between two gaps. -/
theorem exists_gaps (cs : List Char) :
    ∃ before after, IsGap before ∧ IsGap after ∧ cs = before ++ trim cs ++ after := by
  obtain ⟨after, hafter, hend⟩ := exists_gap_behind (trimStart cs)
  refine ⟨cs.takeWhile isBlank, after, fun c hc => List.mem_takeWhile_imp hc, hafter, ?_⟩
  rw [List.append_assoc, trim, ← hend]
  exact List.takeWhile_append_dropWhile.symm

theorem isGap_of_trim {cs : List Char} (h : trim cs = []) : IsGap cs := by
  obtain ⟨before, after, hbefore, hafter, hcs⟩ := exists_gaps cs
  intro c hc
  rw [hcs, h, List.append_nil] at hc
  exact (List.mem_append.1 hc).elim (hbefore c) (hafter c)

/-- What is left when a piece is trimmed may be a segment. -/
theorem isTrimmed_trim {cs : List Char} (hne : trim cs ≠ []) (hwhole : ';' ∉ cs) :
    IsTrimmed (String.ofList (trim cs)) := by
  constructor
  · rw [ne_eq, String.ofList_eq_empty_iff]
    exact hne
  · intro c hc
    obtain ⟨gap, _, hstart⟩ := exists_gap_behind (trimStart cs)
    obtain ⟨rest, hrest⟩ := List.head?_eq_some_iff.1 hc
    rw [String.toList_ofList, trim] at hrest
    rw [hrest] at hstart
    exact not_isBlank_of_trimStart hstart
  · intro c hc
    rw [String.toList_ofList, trim, trimEnd, List.getLast?_reverse] at hc
    obtain ⟨rest, hrest⟩ := List.head?_eq_some_iff.1 hc
    exact not_isBlank_of_trimStart hrest
  · rw [String.toList_ofList]
    intro hmem
    obtain ⟨before, after, _, _, hcs⟩ := exists_gaps cs
    exact hwhole (hcs ▸ by simp [hmem])

/-! ## Padded segments -/

/-- Pieces that come to some segments: each is a segment between two gaps, or a
gap as a whole. -/
inductive Padded : List String → List (List Char) → Prop
  | nil : Padded [] []
  | gap {segments : List String} {pieces : List (List Char)} {gap : List Char} :
      IsGap gap → Padded segments pieces → Padded segments (gap :: pieces)
  | segment {s : String} {segments : List String} {before after : List Char}
      {pieces : List (List Char)} : IsGap before → IsGap after → Padded segments pieces →
      Padded (s :: segments) ((before ++ s.toList ++ after) :: pieces)

/-- Segments are padded with nothing around them. -/
theorem padded_self (names : List String) : Padded names (names.map String.toList) := by
  induction names with
  | nil => exact .nil
  | cons n ns ih =>
    have hnone : IsGap [] := by simp [IsGap]
    have hhead := Padded.segment (s := n) hnone hnone ih
    rw [List.nil_append, List.append_nil] at hhead
    exact hhead

section Padded

variable {names : List String} {pieces : List (List Char)}

theorem inkedPieces_of_padded (h : Padded names pieces) (hs : ∀ n ∈ names, IsTrimmed n) :
    inkedPieces pieces = names.map String.toList := by
  induction h with
  | nil => rfl
  | gap hgap _ ih =>
    rw [inkedPieces, List.map_cons, trim_gap hgap]
    exact ih hs
  | @segment n ns before after ps hbefore hafter _ ih =>
    obtain ⟨hn, hns⟩ := List.forall_mem_cons.1 hs
    have hne : n.toList ≠ [] := mt String.toList_eq_nil_iff.1 hn.nonempty
    rw [inkedPieces, List.map_cons, trim_between_gaps hbefore hafter, hn.trim_eq,
      List.filter_cons_of_pos (by simpa using hne), List.map_cons, ← ih hns]
    rfl

theorem not_mem_gap {gap : List Char} (h : IsGap gap) : ';' ∉ gap := fun hm =>
  absurd (h _ hm) (by decide)

theorem not_mem_of_padded (h : Padded names pieces) (hs : ∀ n ∈ names, IsTrimmed n) :
    ∀ p ∈ pieces, ';' ∉ p := by
  induction h with
  | nil => simp
  | gap hgap _ ih => exact List.forall_mem_cons.2 ⟨not_mem_gap hgap, ih hs⟩
  | segment hbefore hafter _ ih =>
    obtain ⟨hn, hns⟩ := List.forall_mem_cons.1 hs
    refine List.forall_mem_cons.2 ⟨?_, ih hns⟩
    simp [not_mem_gap hbefore, not_mem_gap hafter, hn.whole]

/-- Padding leaves the segments of a text as they are. -/
theorem segments_of_padded (h : Padded names pieces) (hs : ∀ n ∈ names, IsTrimmed n) :
    segments (String.ofList ([';'].intercalate pieces)) = names := by
  have hinked := inkedPieces_of_padded h hs
  rw [segments, String.toList_ofList]
  by_cases hne : pieces = []
  · subst hne
    cases h
    rfl
  · rw [cut_intercalate (not_mem_of_padded h hs) hne, hinked, List.map_map]
    simp

end Padded

/-! ## Lists -/

/-- A text that lists some names: they stand between semicolons with blanks around
them, and blank pieces may stand anywhere. -/
def Lists (raw : String) (names : List String) : Prop :=
  ∃ pieces, Padded names pieces ∧ raw = String.ofList ([';'].intercalate pieces)

theorem padded_inkedPieces (pieces : List (List Char)) :
    Padded ((inkedPieces pieces).map String.ofList) pieces := by
  induction pieces with
  | nil => exact .nil
  | cons p ps ih =>
    by_cases hp : trim p = []
    · have hskip : inkedPieces (p :: ps) = inkedPieces ps := by
        rw [inkedPieces, List.map_cons, List.filter_cons_of_neg (by simpa using hp)]
        rfl
      rw [hskip]
      exact .gap (isGap_of_trim hp) ih
    · obtain ⟨before, after, hbefore, hafter, hsplit⟩ := exists_gaps p
      have hkeep : inkedPieces (p :: ps) = trim p :: inkedPieces ps := by
        rw [inkedPieces, List.map_cons, List.filter_cons_of_pos (by simpa using hp)]
        rfl
      have hhead := Padded.segment (s := String.ofList (trim p)) hbefore hafter ih
      rw [String.toList_ofList, ← hsplit] at hhead
      rw [hkeep]
      exact hhead

theorem lists_segments (raw : String) : Lists raw (segments raw) := by
  refine ⟨cut ';' raw.toList, padded_inkedPieces _, ?_⟩
  rw [intercalate_cut, String.ofList_toList]

theorem isTrimmed_of_mem_segments {raw s : String} (h : s ∈ segments raw) : IsTrimmed s := by
  obtain ⟨t, ht, rfl⟩ := List.mem_map.1 h
  obtain ⟨hmem, hne⟩ := List.mem_filter.1 ht
  obtain ⟨p, hp, rfl⟩ := List.mem_map.1 hmem
  exact isTrimmed_trim (by simpa using hne) (not_mem_of_mem_cut hp)

/-- The segments of a text are the trimmed names that it lists. -/
theorem segments_eq_iff {raw : String} {names : List String} :
    segments raw = names ↔ (∀ n ∈ names, IsTrimmed n) ∧ Lists raw names := by
  constructor
  · rintro rfl
    exact ⟨fun n hn => isTrimmed_of_mem_segments hn, lists_segments raw⟩
  · rintro ⟨hnames, pieces, hpadded, rfl⟩
    exact segments_of_padded hpadded hnames

/-- The segments of a join are the segments of its two sides. -/
theorem segments_append (a b : String) :
    segments (a ++ ";" ++ b) = segments a ++ segments b := by
  have hlist : (a ++ ";" ++ b).toList = a.toList ++ ';' :: b.toList := by simp
  unfold segments inkedPieces
  rw [hlist, cut_append_cons, List.map_append, List.filter_append, List.map_append]

/-- A semicolon is a separator like any other. -/
theorem segmentsAt?_semicolon (raw : String) : segmentsAt? ";" raw = some (segments raw) := by
  unfold segmentsAt?
  split
  · next hempty =>
    rw [String.isEmpty_iff.1 hempty]
    rfl
  · rw [if_neg (by decide), segments, ← cutAtText_singleton]
    rfl

/-- Segments joined with semicolons are read back as they are. -/
theorem segments_intercalate {names : List String} (h : ∀ n ∈ names, IsTrimmed n) :
    segments (String.intercalate ";" names) = names := by
  have hjoin : String.intercalate ";" names =
      String.ofList ([';'].intercalate (names.map String.toList)) := by
    rw [← String.toList_inj, String.toList_ofList, String.toList_intercalate]
    rfl
  rw [hjoin, segments_of_padded (padded_self names) h]

/-- A segment is all of its own segments. -/
theorem segments_of_isSegment {s : String} (h : IsSegment s) : segments s = [s] := by
  have hall : ∀ n ∈ [s], IsTrimmed n := by simpa using h.isTrimmed
  have hone := segments_intercalate hall
  rwa [String.intercalate_singleton] at hone

end ThreeBlock.Text
