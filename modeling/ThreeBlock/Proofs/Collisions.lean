-- Edges that share a flag. The digit between the two names of a flag may stand in a name as
-- well, so a flag can be cut in more than one way. Two edges share one when their names differ
-- in case alone, or when a part with its digit goes over from one name to the other, and in no
-- other way.
import Mathlib.Data.List.Forall2
import ThreeBlock.Proofs.Identifier
namespace ThreeBlock

/-! ## Words with a separator -/

/-- Two words around a separator are the same text as two others just when they are the same
words, or when a separator inside of one pair is the one between the other. -/
theorem append_cons_eq_append_cons_iff {α : Type} {sep : α} {a b c d : List α} :
    a ++ sep :: b = c ++ sep :: d ↔
      (a = c ∧ b = d) ∨ (∃ x, c = a ++ sep :: x ∧ b = x ++ sep :: d) ∨
        ∃ x, a = c ++ sep :: x ∧ d = x ++ sep :: b := by
  constructor
  · intro h
    rcases List.append_eq_append_iff.1 h with ⟨gap, hc, hb⟩ | ⟨gap, ha, hd⟩
    · rcases List.cons_eq_append_iff.1 hb with ⟨rfl, hsame⟩ | ⟨x, rfl, hx⟩
      · exact .inl ⟨by simp [hc], (List.cons.inj hsame).2.symm⟩
      · exact .inr (.inl ⟨x, hc, hx⟩)
    · rcases List.cons_eq_append_iff.1 hd with ⟨rfl, hsame⟩ | ⟨x, rfl, hx⟩
      · exact .inl ⟨by simp [ha], (List.cons.inj hsame).2⟩
      · exact .inr (.inr ⟨x, ha, hx⟩)
  · rintro (⟨rfl, rfl⟩ | ⟨x, rfl, rfl⟩ | ⟨x, rfl, rfl⟩)
    · rfl
    · simp
    · simp

/-! ## Case -/

/-- Two characters that are the same, or one letter in its two cases. -/
def EqualLetters (c d : Char) : Prop := c = d ∨ c = d.toUpper ∨ d = c.toUpper

/-- Two names that are the same when case does not count. -/
def EqualUpToCase (a b : String) : Prop := List.Forall₂ EqualLetters a.toList b.toList

theorem toNat_toUpper (c : Char) :
    c.toUpper.toNat = if 97 ≤ c.toNat ∧ c.toNat ≤ 122 then c.toNat - 32 else c.toNat := by
  have hlower : (c.val ≥ 'a'.val ∧ c.val ≤ 'z'.val) ↔ 97 ≤ c.toNat ∧ c.toNat ≤ 122 := by
    simp only [ge_iff_le, UInt32.le_iff_toNat_le]
    rfl
  unfold Char.toUpper
  split
  · next h =>
    have hc := hlower.1 h
    rw [if_pos hc]
    change (c.val + ('A'.val - 'a'.val)).toNat = c.toNat - 32
    rw [UInt32.toNat_add]
    change (c.toNat + 4294967264) % 2 ^ 32 = c.toNat - 32
    omega
  · next h => rw [if_neg (mt hlower.2 h)]

/-- Lower case tells characters apart just when they are different letters. -/
theorem toLower_eq_iff (c d : Char) : c.toLower = d.toLower ↔ EqualLetters c d := by
  rw [EqualLetters, ← Char.toNat_inj, ← Char.toNat_inj, ← Char.toNat_inj, ← Char.toNat_inj,
    toNat_toLower, toNat_toLower, toNat_toUpper, toNat_toUpper]
  split <;> split <;> split <;> split <;> omega

theorem lowercase_eq_iff {a b : String} (ha : IsWord a) (hb : IsWord b) :
    Text.lowercase a = Text.lowercase b ↔ EqualUpToCase a b := by
  rw [← String.toList_inj, toList_lowercase ha, toList_lowercase hb, EqualUpToCase,
    ← List.forall₂_eq_eq_eq, List.forall₂_map_left_iff, List.forall₂_map_right_iff]
  simp only [toLower_eq_iff]

/-! ## Flags -/

/-- The second flag is the first one cut at a later digit: a part of the first target, and the
digit in front of it, belong to the second source. -/
def IsCutLater (source target source' target' : String) : Prop :=
  ∃ part, Text.lowercase source' = Text.lowercase source ++ "2" ++ part ∧
    Text.lowercase target = part ++ "2" ++ Text.lowercase target'

theorem isCutLater_iff {source target source' target' : String} :
    IsCutLater source target source' target' ↔
      ∃ part : List Char,
        (Text.lowercase source').toList = (Text.lowercase source).toList ++ '2' :: part ∧
          (Text.lowercase target).toList = part ++ '2' :: (Text.lowercase target').toList := by
  constructor
  · rintro ⟨part, hsource, htarget⟩
    exact ⟨part.toList, by simp [hsource], by simp [htarget]⟩
  · rintro ⟨part, hsource, htarget⟩
    refine ⟨String.ofList part, ?_, ?_⟩
    · rw [← String.toList_inj, hsource]
      simp
    · rw [← String.toList_inj, htarget]
      simp

theorem toList_flagFor (source target : String) :
    (flagFor source target).toList =
      (Text.lowercase source).toList ++ '2' :: (Text.lowercase target).toList := by
  simp [flagFor]

/-- A flag is shared by equal names in lower case, or cut in two ways. -/
theorem flagFor_eq_iff {source target source' target' : String} :
    flagFor source target = flagFor source' target' ↔
      (Text.lowercase source = Text.lowercase source' ∧
        Text.lowercase target = Text.lowercase target') ∨
      IsCutLater source target source' target' ∨ IsCutLater source' target' source target := by
  rw [isCutLater_iff, isCutLater_iff, ← String.toList_inj, toList_flagFor, toList_flagFor,
    append_cons_eq_append_cons_iff, String.toList_inj, String.toList_inj]

/-- A source with no digit 2 comes of no later cut. -/
theorem not_isCutLater {source' : String} (hword : IsWord source') (h : '2' ∉ source'.toList)
    (source target target' : String) : ¬ IsCutLater source target source' target' := by
  intro hcut
  obtain ⟨part, hsource, _⟩ := isCutLater_iff.1 hcut
  have hdigit : '2' ∈ source'.toList.map Char.toLower := by
    rw [← toList_lowercase hword, hsource]
    simp
  obtain ⟨c, hc, hlower⟩ := List.mem_map.1 hdigit
  obtain rfl : c = '2' := by
    rcases (toLower_eq_iff c '2').1 hlower with rfl | rfl | hupper
    · rfl
    · rfl
    · rw [← Char.toNat_inj, toNat_toUpper] at hupper
      rw [← Char.toNat_inj]
      change 50 = _ at hupper
      change _ = 50
      split at hupper <;> omega
  exact h hc

section Identifiers

variable {source target source' target' : String} (hs : isIdentifier source = true)
  (ht : isIdentifier target = true) (hs' : isIdentifier source' = true)
  (ht' : isIdentifier target' = true)
include hs ht hs' ht'

theorem flagFor_eq_iff_upToCase :
    flagFor source target = flagFor source' target' ↔
      (EqualUpToCase source source' ∧ EqualUpToCase target target') ∨
      IsCutLater source target source' target' ∨ IsCutLater source' target' source target := by
  rw [flagFor_eq_iff, lowercase_eq_iff (isWord_of_isIdentifier hs) (isWord_of_isIdentifier hs'),
    lowercase_eq_iff (isWord_of_isIdentifier ht) (isWord_of_isIdentifier ht')]

/-- Without the digit in the sources there is one way to cut a flag. -/
theorem flagFor_eq_iff_of_not_mem (hplain : '2' ∉ source.toList)
    (hplain' : '2' ∉ source'.toList) :
    flagFor source target = flagFor source' target' ↔
      EqualUpToCase source source' ∧ EqualUpToCase target target' := by
  rw [flagFor_eq_iff_upToCase hs ht hs' ht']
  constructor
  · rintro (hnames | hcut | hcut)
    · exact hnames
    · exact absurd hcut (not_isCutLater (isWord_of_isIdentifier hs') hplain' _ _ _)
    · exact absurd hcut (not_isCutLater (isWord_of_isIdentifier hs) hplain _ _ _)
  · exact Or.inl

end Identifiers

/-- Two pairs of identifiers share a flag just when their names are equal up to case, or the
flag of one is that of the other cut later. Edges whose sources have no digit 2 share a flag
just when they join the same names up to case. -/
theorem flags_meet_by_case_or_by_cut :
    (∀ {source target source' target' : String}, isIdentifier source = true →
      isIdentifier target = true → isIdentifier source' = true → isIdentifier target' = true →
      (flagFor source target = flagFor source' target' ↔
        (EqualUpToCase source source' ∧ EqualUpToCase target target') ∨
        IsCutLater source target source' target' ∨ IsCutLater source' target' source target)) ∧
    ∀ {t u : Transition}, isIdentifier t.source = true → isIdentifier t.target = true →
      isIdentifier u.source = true → isIdentifier u.target = true →
      '2' ∉ t.source.toList → '2' ∉ u.source.toList →
      (t.flag = u.flag ↔ EqualUpToCase t.source u.source ∧ EqualUpToCase t.target u.target) :=
  ⟨flagFor_eq_iff_upToCase, flagFor_eq_iff_of_not_mem⟩

/-- The flag `a2b2c` is shared by the names `A2b` and `c` with the names `a` and `B2C`, and
`a` and `B` share theirs with `A` and `b`. -/
theorem a_flag_is_cut_at_either_digit :
    flagFor "A2b" "c" = flagFor "a" "B2C" ∧ ¬ EqualUpToCase "A2b" "a" ∧
      Transition.flag ⟨"a", "B", 1⟩ = Transition.flag ⟨"A", "b", 2⟩ := by
  have hlater : IsCutLater "a" "B2C" "A2b" "c" := ⟨"b", by decide +kernel, by decide +kernel⟩
  have hcase : EqualUpToCase "a" "A" ∧ EqualUpToCase "B" "b" :=
    ⟨.cons (.inr (.inr (by decide))) .nil, .cons (.inr (.inl (by decide))) .nil⟩
  obtain ⟨hmeet, hplain⟩ := flags_meet_by_case_or_by_cut
  refine ⟨?_, ?_, ?_⟩
  · exact (hmeet (by decide) (by decide) (by decide) (by decide)).2 (.inr (.inr hlater))
  · intro hnames
    have hlength := hnames.length_eq
    exact absurd hlength (by decide)
  · exact (hplain (by decide) (by decide) (by decide) (by decide) (by decide) (by decide)).2 hcase

end ThreeBlock
