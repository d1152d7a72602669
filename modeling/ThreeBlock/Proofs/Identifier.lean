-- The characters of identifiers. They are plain ASCII: no blank, no
-- separator and no line break is among them, and lower case keeps an
-- identifier an identifier. So a flag is an identifier as well.
import Mathlib.Data.List.Basic
import ThreeBlock.Flag
import ThreeBlock.Identifier
namespace ThreeBlock

/-! ## Characters -/

theorem isIdentifierStart_iff (c : Char) :
    isIdentifierStart c = true ↔
      (65 ≤ c.toNat ∧ c.toNat ≤ 90) ∨ (97 ≤ c.toNat ∧ c.toNat ≤ 122) ∨ c.toNat = 95 := by
  have underscore : c = '_' ↔ c.toNat = 95 := Char.toNat_inj.symm
  simp only [isIdentifierStart, Bool.or_eq_true, Bool.and_eq_true, decide_eq_true_eq, underscore,
    Char.le_def, UInt32.le_iff_toNat_le, or_assoc]
  rfl

theorem isDigit_iff (c : Char) : Text.isDigit c = true ↔ 48 ≤ c.toNat ∧ c.toNat ≤ 57 := by
  simp only [Text.isDigit, Bool.and_eq_true, decide_eq_true_eq, Char.le_def,
    UInt32.le_iff_toNat_le]
  rfl

theorem isIdentifierPart_iff (c : Char) :
    isIdentifierPart c = true ↔ isIdentifierStart c = true ∨ Text.isDigit c = true := by
  simp only [isIdentifierPart, Text.isDigit, Bool.or_eq_true]

/-- No character is both a digit and the start of an identifier. -/
theorem isDigit_of_isIdentifierStart {c : Char} (h : isIdentifierStart c = true) :
    Text.isDigit c = false := by
  rw [isIdentifierStart_iff] at h
  rw [← Bool.not_eq_true, isDigit_iff]
  omega

/-- The characters of identifiers lie between the digit 0 and the letter z. -/
theorem toNat_of_isIdentifierPart {c : Char} (h : isIdentifierPart c = true) :
    48 ≤ c.toNat ∧ c.toNat ≤ 122 := by
  rw [isIdentifierPart_iff, isIdentifierStart_iff, isDigit_iff] at h
  omega

theorem isBlank_of_isIdentifierPart {c : Char} (h : isIdentifierPart c = true) :
    Text.isBlank c = false := by
  have := toNat_of_isIdentifierPart h
  simp [Text.isBlank, Text.inRanges, Text.blankRanges]
  omega

/-! ## Words -/

/-- A text of identifier characters, at least one. Identifiers, numerals and
flags are words. -/
structure IsWord (s : String) : Prop where
  nonempty : s ≠ ""
  part : ∀ c ∈ s.toList, isIdentifierPart c = true

/-- A character that no identifier has stands in no word. -/
theorem IsWord.not_mem {s : String} {d : Char} (h : IsWord s) (hd : isIdentifierPart d = false) :
    d ∉ s.toList := by
  intro hm
  rw [h.part d hm] at hd
  cases hd

theorem isIdentifier_iff (s : String) :
    isIdentifier s = true ↔
      ∃ c cs, s.toList = c :: cs ∧ isIdentifierStart c = true ∧
        ∀ d ∈ cs, isIdentifierPart d = true := by
  unfold isIdentifier
  rcases s.toList with _ | ⟨c, cs⟩
  · simp [spellsIdentifier]
  · simp only [spellsIdentifier, Bool.and_eq_true, List.all_eq_true]
    constructor
    · intro h
      exact ⟨c, cs, rfl, h⟩
    · rintro ⟨_, _, ⟨⟩, h⟩
      exact h

theorem isWord_of_isIdentifier {s : String} (h : isIdentifier s = true) : IsWord s := by
  obtain ⟨c, cs, hs, hc, hcs⟩ := (isIdentifier_iff s).1 h
  constructor
  · rintro rfl
    simp at hs
  · intro d hd
    rw [hs] at hd
    rcases List.mem_cons.1 hd with rfl | hd
    · exact (isIdentifierPart_iff d).2 (Or.inl hc)
    · exact hcs d hd

/-! ## Lower case -/

theorem toNat_toLower (c : Char) :
    c.toLower.toNat = if 65 ≤ c.toNat ∧ c.toNat ≤ 90 then c.toNat + 32 else c.toNat := by
  have hupper : (c.val ≥ 'A'.val ∧ c.val ≤ 'Z'.val) ↔ 65 ≤ c.toNat ∧ c.toNat ≤ 90 := by
    simp only [ge_iff_le, UInt32.le_iff_toNat_le]
    rfl
  unfold Char.toLower
  split
  · next h =>
    have hc := hupper.1 h
    rw [if_pos hc]
    change (c.val + 32).toNat = c.toNat + 32
    rw [UInt32.toNat_add]
    change (c.toNat + 32) % 2 ^ 32 = c.toNat + 32
    omega
  · next h => rw [if_neg (mt hupper.2 h)]

theorem isIdentifierStart_toLower {c : Char} (h : isIdentifierStart c = true) :
    isIdentifierStart c.toLower = true := by
  rw [isIdentifierStart_iff] at *
  rw [toNat_toLower]
  split <;> omega

theorem isIdentifierPart_toLower {c : Char} (h : isIdentifierPart c = true) :
    isIdentifierPart c.toLower = true := by
  rw [isIdentifierPart_iff, isIdentifierStart_iff, isDigit_iff] at *
  rw [toNat_toLower]
  split <;> omega

/-- Among plain characters no case rule looks at the neighbors. -/
theorem lowerAfter_of_isIdentifierPart (before : List Char) {cs : List Char}
    (h : ∀ c ∈ cs, isIdentifierPart c = true) :
    Text.lowerAfter before cs = cs.map Char.toLower := by
  induction cs generalizing before with
  | nil => rfl
  | cons c cs ih =>
    have hc := toNat_of_isIdentifierPart (h c List.mem_cons_self)
    have hsigma : c ≠ 'Σ' := by
      rintro rfl
      exact absurd hc (by decide)
    have hlow : Text.lowerChar c = [c.toLower] := if_pos (by omega)
    rw [Text.lowerAfter, if_neg hsigma, hlow, ih _ fun d hd => h d (List.mem_cons_of_mem _ hd)]
    rfl

theorem toList_lowercase {s : String} (h : IsWord s) :
    (Text.lowercase s).toList = s.toList.map Char.toLower := by
  unfold Text.lowercase
  rw [String.toList_ofList, lowerAfter_of_isIdentifierPart [] h.part]

/-- The flag of two identifiers is an identifier. -/
theorem isIdentifier_flagFor {source target : String} (hs : isIdentifier source = true)
    (ht : isIdentifier target = true) : isIdentifier (flagFor source target) = true := by
  have hws := isWord_of_isIdentifier hs
  have hwt := isWord_of_isIdentifier ht
  obtain ⟨c, cs, hc, hstart, hpart⟩ := (isIdentifier_iff source).1 hs
  have hflag : (flagFor source target).toList =
      c.toLower :: (cs.map Char.toLower ++ '2' :: target.toList.map Char.toLower) := by
    simp [flagFor, toList_lowercase hws, toList_lowercase hwt, hc]
  rw [isIdentifier_iff]
  refine ⟨_, _, hflag, isIdentifierStart_toLower hstart, ?_⟩
  intro d hd
  simp only [List.mem_append, List.mem_map, List.mem_cons] at hd
  rcases hd with ⟨e, he, rfl⟩ | rfl | ⟨e, he, rfl⟩
  · exact isIdentifierPart_toLower (hpart e he)
  · decide
  · exact isIdentifierPart_toLower (hwt.part e he)

end ThreeBlock
