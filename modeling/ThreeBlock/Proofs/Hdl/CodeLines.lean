-- Lines and their text. Lines without line feeds come back from their text, a
-- line with a word between two fixed texts gives the word back, and the lines of
-- code of a text are its lines without comments.
import Mathlib.Data.List.Basic
import ThreeBlock.Proofs.Hdl.Circuit
import ThreeBlock.Proofs.Text.Segments
namespace ThreeBlock.Hdl

/-! ## Lines and their text -/

/-- Lines without line feeds inside them. -/
def AllWhole (ls : List String) : Prop := ∀ l ∈ ls, '\n' ∉ l.toList

instance (ls : List String) : Decidable (AllWhole ls) :=
  inferInstanceAs (Decidable (∀ l ∈ ls, '\n' ∉ l.toList))

theorem AllWhole.append {ls ms : List String} (hl : AllWhole ls) (hm : AllWhole ms) :
    AllWhole (ls ++ ms) := List.forall_mem_append.2 ⟨hl, hm⟩

theorem toList_textOfLines_cons (l : String) (ls : List String) :
    (textOfLines (l :: ls)).toList = l.toList ++ '\n' :: (textOfLines ls).toList := by
  simp [textOfLines]

theorem textOfLines_append (ls ms : List String) :
    textOfLines (ls ++ ms) = textOfLines ls ++ textOfLines ms := by
  induction ls with
  | nil => simp [textOfLines]
  | cons l ls ih =>
    rw [← String.toList_inj] at ih ⊢
    rw [List.cons_append, toList_textOfLines_cons, ih, String.toList_append, String.toList_append,
      toList_textOfLines_cons]
    simp

/-- Lines without line feeds come back when a text that starts with them is cut. -/
theorem cut_textOfLines_append {ls : List String} (h : AllWhole ls) (rest : List Char) :
    Text.cut '\n' ((textOfLines ls).toList ++ rest) =
      ls.map String.toList ++ Text.cut '\n' rest := by
  simp only [Text.cut_eq_splitOn]
  induction ls with
  | nil => rfl
  | cons l ls ih =>
    rw [toList_textOfLines_cons, List.append_assoc, List.cons_append,
      List.splitOn_append_cons_self_of_not_mem (h l List.mem_cons_self),
      ih fun m hm => h m (List.mem_cons_of_mem _ hm)]
    rfl

theorem cut_textOfLines {ls : List String} (h : AllWhole ls) :
    Text.cut '\n' (textOfLines ls).toList = ls.map String.toList ++ [[]] := by
  have hcut := cut_textOfLines_append h []
  rwa [List.append_nil] at hcut

/-- Lines without line feeds are told by their text. -/
theorem lines_eq_of_text_eq {ls ms : List String} (hl : AllWhole ls) (hm : AllWhole ms)
    (h : textOfLines ls = textOfLines ms) : ls = ms := by
  have hcut := cut_textOfLines hl
  rw [h, cut_textOfLines hm] at hcut
  have hmap := List.append_cancel_right hcut
  exact (List.map_inj_right fun _ _ => String.toList_inj.1).1 hmap.symm

/-! ## Lines of code -/

theorem beforeComment_of_not_mem {cs : List Char} (h : '/' ∉ cs) : beforeComment cs = cs := by
  induction cs with
  | nil => rfl
  | cons c cs ih =>
    rw [List.mem_cons, not_or] at h
    rw [beforeComment, if_neg fun hc => h.1 hc.1.symm, ih h.2]

theorem beforeComment_append {cs : List Char} (h : '/' ∉ cs) (rest : List Char) :
    beforeComment (cs ++ '/' :: '/' :: rest) = cs := by
  induction cs with
  | nil => rfl
  | cons c cs ih =>
    rw [List.mem_cons, not_or] at h
    rw [List.cons_append, beforeComment, if_neg fun hc => h.1 hc.1.symm, ih h.2]

/-- The lines of code among some lines. -/
def codeOf (ls : List String) : List String :=
  (ls.map fun l => bareLine l.toList).filter (· ≠ "")

theorem codeOf_append (ls ms : List String) : codeOf (ls ++ ms) = codeOf ls ++ codeOf ms := by
  simp [codeOf]

/-- A line that is code and nothing else. -/
structure IsCode (l : String) : Prop where
  whole : '\n' ∉ l.toList
  bare : bareLine l.toList = l
  nonempty : l ≠ ""

theorem codeOf_of_isCode {ls : List String} (h : ∀ l ∈ ls, IsCode l) : codeOf ls = ls := by
  have hmap : (ls.map fun l => bareLine l.toList) = ls := by
    conv_rhs => rw [← List.map_id ls]
    exact List.map_congr_left fun l hl => (h l hl).bare
  rw [codeOf, hmap, List.filter_eq_self]
  intro l hl
  simp [(h l hl).nonempty]

theorem allWhole_of_isCode {ls : List String} (h : ∀ l ∈ ls, IsCode l) : AllWhole ls :=
  fun l hl => (h l hl).whole

theorem IsCode.allWhole {l : String} (h : IsCode l) : AllWhole [l] :=
  allWhole_of_isCode (by simpa using h)

theorem codeLines_textOfLines {ls : List String} (h : AllWhole ls) :
    codeLines (textOfLines ls) = codeOf ls := by
  have hlast : bareLine [] = "" := by decide
  simp [codeLines, cut_textOfLines h, codeOf, hlast, Function.comp_def]

/-! ## A word between two fixed texts -/

/-- Two texts that make a line of code with any word between them. -/
def FramesCode (before after : String) : Prop :=
  '/' ∉ before.toList ++ after.toList ∧ '\n' ∉ before.toList ++ after.toList ∧
    after.toList.getLast?.all (fun c => !Text.isBlank c) = true

instance (before after : String) : Decidable (FramesCode before after) :=
  inferInstanceAs (Decidable (_ ∧ _))

theorem trimEnd_word {before after word : String} (hw : IsWord word)
    (hlast : after.toList.getLast?.all (fun c => !Text.isBlank c) = true) :
    Text.trimEnd (before ++ word ++ after).toList = (before ++ word ++ after).toList := by
  rcases List.eq_nil_or_concat after.toList with hnil | ⟨ds, d, hd⟩
  · obtain ⟨cs, c, hc⟩ : ∃ cs c, word.toList = cs ++ [c] := by
      rcases List.eq_nil_or_concat word.toList with h | ⟨cs, c, h⟩
      · exact absurd (String.toList_eq_nil_iff.1 h) hw.nonempty
      · exact ⟨cs, c, by rw [h, List.concat_eq_append]⟩
    have hink := isBlank_of_isIdentifierPart (hw.part c (by simp [hc]))
    simp only [String.toList_append, hnil, hc, List.append_nil, ← List.append_assoc]
    exact Text.trimEnd_concat hink
  · rw [List.concat_eq_append] at hd
    have hink : Text.isBlank d = false := by simpa [hd] using hlast
    simp only [String.toList_append, hd, ← List.append_assoc]
    exact Text.trimEnd_concat hink

theorem isCode_of_framesCode {before after word : String} (h : FramesCode before after)
    (hw : IsWord word) : IsCode (before ++ word ++ after) := by
  obtain ⟨hslash, hfeed, hlast⟩ := h
  have hnone : ∀ d, isIdentifierPart d = false → d ∉ before.toList ++ after.toList →
      d ∉ (before ++ word ++ after).toList := by
    intro d hd hba
    simp only [List.mem_append, not_or] at hba
    simp [hba.1, hba.2, hw.not_mem hd]
  constructor
  · exact hnone _ (by decide) hfeed
  · rw [bareLine, beforeComment_of_not_mem (hnone _ (by decide) hslash), trimEnd_word hw hlast]
    exact String.ofList_toList
  · intro he
    have hempty := congrArg String.toList he
    simp [hw.nonempty] at hempty

/-- The word between two texts is read back when it is an identifier. -/
theorem between_word {word : String} (before after : String) (hw : isIdentifier word = true) :
    between before after (before ++ word ++ after) = some word := by
  have hrest : (before ++ word ++ after).toList.dropPrefix? before.toList =
      some (word.toList ++ after.toList) := by
    simp [List.dropPrefix?_eq_some_iff]
  have hname : (word.toList ++ after.toList).dropSuffix? after.toList = some word.toList := by
    simp [List.dropSuffix?_eq_some_iff]
  have hspell : spellsIdentifier word.toList = true := hw
  rw [between, hrest, Option.bind_eq_bind, Option.bind_some, hname, Option.bind_some,
    if_pos hspell, String.ofList_toList]

/-- Lines that frame words are read back to the words. -/
theorem mapM_between {words : List String} (before after : String)
    (h : ∀ w ∈ words, isIdentifier w = true) :
    (words.map fun w => before ++ w ++ after).mapM (between before after) = some words := by
  induction words with
  | nil => rfl
  | cons w ws ih =>
    rw [List.map_cons, List.mapM_cons, between_word before after (h w List.mem_cons_self),
      ih fun v hv => h v (List.mem_cons_of_mem _ hv)]
    rfl

theorem isCode_map {words : List String} {before after : String}
    (hframe : FramesCode before after) (h : ∀ w ∈ words, isIdentifier w = true) :
    ∀ l ∈ words.map fun w => before ++ w ++ after, IsCode l := by
  intro l hl
  obtain ⟨w, hw, rfl⟩ := List.mem_map.1 hl
  exact isCode_of_framesCode hframe (isWord_of_isIdentifier (h w hw))

/-! ## Closing lines -/

theorem upTo_append {close : String} {body : List String} (h : close ∉ body)
    (rest : List String) : upTo close (body ++ ([close] ++ rest)) = some (body, rest) := by
  induction body with
  | nil => simp [upTo]
  | cons l ls ih =>
    rw [List.mem_cons, not_or] at h
    rw [List.cons_append, upTo, if_neg (Ne.symm h.1), ih h.2]
    rfl

/-- Lines that all have a character at a place do not hold one that has not. -/
theorem not_mem_of_getElem? {i : Nat} {c : Char} {close : String} {ls : List String}
    (h : ∀ l ∈ ls, l.toList[i]? = some c) (hc : close.toList[i]? ≠ some c) : close ∉ ls :=
  fun hm => hc (h close hm)

end ThreeBlock.Hdl
