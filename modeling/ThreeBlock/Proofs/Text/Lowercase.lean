-- Lower case is settled: a text in lower case stays as it is. No character of the
-- case table goes to one that has a lower-case form of its own, and what the rules
-- for the dotted I and the sigma give has none either.
import Mathlib.Data.List.SplitBy
import ThreeBlock.Proofs.Identifier
import ThreeBlock.Text.Points
namespace ThreeBlock.Text

/-! ## Settled characters -/

/-- A character that lower case leaves as it is, wherever it stands. -/
def IsLow (c : Char) : Prop := c ≠ 'Σ' ∧ lowerChar c = [c]

instance (c : Char) : Decidable (IsLow c) := inferInstanceAs (Decidable (_ ∧ _))

theorem lowerAfter_of_isLow (before : List Char) {cs : List Char} (h : ∀ c ∈ cs, IsLow c) :
    lowerAfter before cs = cs := by
  induction cs generalizing before with
  | nil => rfl
  | cons c cs ih =>
    obtain ⟨⟨hsigma, hlow⟩, hcs⟩ := List.forall_mem_cons.1 h
    rw [lowerAfter, if_neg hsigma, hlow, ih _ hcs]
    rfl

/-! ## The table -/

/-- The code points that the table lists. -/
def upperPoints : List Nat :=
  lowerRuns.flatMap fun r =>
    (List.range ((r.2.1 - r.1) / r.2.2.1 + 1)).map fun k => r.1 + k * r.2.2.1

/-- Some numbers as the bits of one. -/
def mask (ns : List Nat) : Nat := ns.foldr (fun n m => m ||| 1 <<< n) 0

theorem testBit_mask (ns : List Nat) (n : Nat) : (mask ns).testBit n = decide (n ∈ ns) := by
  induction ns with
  | nil => simp [mask]
  | cons m ns ih =>
    rw [mask, List.foldr_cons, ← mask, Nat.testBit_or, ih, Nat.one_shiftLeft,
      Nat.testBit_two_pow]
    simp [Bool.or_comm, eq_comm]

theorem lowerShift_cases (n : Nat) :
    (n ∉ upperPoints → lowerShift n = 0) ∧
      (lowerShift n = 0 ∨ ∃ r ∈ lowerRuns, ∃ k ∈ List.range ((r.2.1 - r.1) / r.2.2.1 + 1),
        n = r.1 + k * r.2.2.1 ∧ lowerShift n = r.2.2.2) := by
  unfold lowerShift
  cases hfind : lowerRuns.find? _ with
  | none => exact ⟨fun _ => rfl, .inl rfl⟩
  | some r =>
    have hr := List.mem_of_find?_eq_some hfind
    have hin := List.find?_some hfind
    simp only [Bool.and_eq_true, decide_eq_true_eq] at hin
    obtain ⟨⟨hfirst, hlast⟩, hstep⟩ := hin
    have hk : (n - r.1) / r.2.2.1 ∈ List.range ((r.2.1 - r.1) / r.2.2.1 + 1) := by
      have := Nat.div_le_div_right (c := r.2.2.1) (Nat.sub_le_sub_right hlast r.1)
      simp
      omega
    have hn : n = r.1 + (n - r.1) / r.2.2.1 * r.2.2.1 := by
      have := Nat.div_add_mod' (n - r.1) r.2.2.1
      omega
    refine ⟨fun hnot => absurd ?_ hnot, .inr ⟨r, hr, _, hk, hn, rfl⟩⟩
    exact List.mem_flatMap.2 ⟨r, hr, List.mem_map.2 ⟨_, hk, hn.symm⟩⟩

/-- Whether a code point stands for a character that lower case leaves as it is. -/
def isLowPoint (n : Nat) : Bool :=
  hasCharacter n && n ≠ 0x3A3 && n ≠ 0x130 &&
    (if n < 0x80 then !(65 ≤ n && n ≤ 90) else !(mask upperPoints).testBit n)

/-- Every lower-case form in the table is settled. -/
theorem isLowPoint_of_mem_lowerRuns :
    ∀ r ∈ lowerRuns, ∀ k ∈ List.range ((r.2.1 - r.1) / r.2.2.1 + 1),
      isLowPoint (Int.toNat (r.1 + k * r.2.2.1 + r.2.2.2)) = true := by
  decide +kernel

/-! ## Characters -/

theorem toNat_ofNat {n : Nat} (h : n.isValidChar) : (Char.ofNat n).toNat = n := by
  rw [Char.ofNat, dif_pos h]
  rfl

theorem toLower_of_not_upper {c : Char} (h : ¬ (65 ≤ c.toNat ∧ c.toNat ≤ 90)) : c.toLower = c := by
  apply Char.toNat_inj.1
  rw [toNat_toLower, if_neg h]

theorem lowerChar_of_shift {c : Char} (hplain : ¬ c.toNat < 0x80) (hdotted : c ≠ '\u0130')
    (hshift : lowerShift c.toNat = 0) : lowerChar c = [c] := by
  rw [lowerChar, if_neg hplain, if_neg hdotted, hshift]
  simp

theorem isLow_of_isLowPoint {n : Nat} (h : isLowPoint n = true) : IsLow (Char.ofNat n) := by
  simp only [isLowPoint, Bool.and_eq_true, decide_eq_true_eq, hasCharacter] at h
  obtain ⟨⟨⟨hvalid, hsigma⟩, hdotted⟩, hcase⟩ := h
  have hn := toNat_ofNat hvalid
  constructor
  · intro hc
    rw [hc] at hn
    exact hsigma hn.symm
  · by_cases hplain : n < 0x80
    · rw [if_pos hplain] at hcase
      rw [lowerChar, if_pos (hn.symm ▸ hplain), toLower_of_not_upper]
      rw [hn]
      simp at hcase
      omega
    · rw [if_neg hplain, testBit_mask] at hcase
      apply lowerChar_of_shift
      · rw [hn]
        exact hplain
      · intro hc
        rw [hc] at hn
        exact hdotted hn.symm
      · rw [hn]
        exact (lowerShift_cases n).1 (by simpa using hcase)

theorem isLow_of_mem_lowerChar {c d : Char} (hsigma : c ≠ 'Σ') (h : d ∈ lowerChar c) :
    IsLow d := by
  unfold lowerChar at h
  split at h
  · next hplain =>
    obtain rfl := List.mem_singleton.1 h
    have hlow := toNat_toLower c
    constructor
    · intro hd
      rw [hd] at hlow
      split at hlow <;> simp at hlow <;> omega
    · rw [lowerChar, if_pos (by split at hlow <;> omega), toLower_of_not_upper]
      split at hlow <;> omega
  · next hplain =>
    split at h
    · rcases List.mem_cons.1 h with rfl | h
      · decide +kernel
      · obtain rfl := List.mem_singleton.1 h
        decide +kernel
    · next hdotted =>
      obtain rfl := List.mem_singleton.1 h
      obtain ⟨_, hshift | ⟨r, hr, k, hk, hn, hshift⟩⟩ := lowerShift_cases c.toNat
      · have hsame : Char.ofNat (Int.toNat (c.toNat + lowerShift c.toNat)) = c := by
          rw [hshift]
          simp
        rw [hsame]
        exact ⟨hsigma, lowerChar_of_shift hplain hdotted hshift⟩
      · have hlow := isLow_of_isLowPoint (isLowPoint_of_mem_lowerRuns r hr k hk)
        rw [hshift, hn]
        push_cast
        exact hlow

theorem isLow_of_mem_lowerAfter {before cs : List Char} {d : Char}
    (h : d ∈ lowerAfter before cs) : IsLow d := by
  induction cs generalizing before with
  | nil => cases h
  | cons c cs ih =>
    rw [lowerAfter, List.mem_append] at h
    rcases h with h | h
    · split at h
      · obtain rfl := List.mem_singleton.1 h
        split <;> decide +kernel
      · next hsigma => exact isLow_of_mem_lowerChar hsigma h
    · exact ih h

/-! ## Texts -/

theorem lowercase_of_isLow {s : String} (h : ∀ c ∈ s.toList, IsLow c) : lowercase s = s := by
  rw [lowercase, lowerAfter_of_isLow [] h, String.ofList_toList]

/-- A text in lower case stays as it is. -/
@[simp]
theorem lowercase_lowercase (s : String) : lowercase (lowercase s) = lowercase s := by
  apply lowercase_of_isLow
  intro c hc
  rw [lowercase, String.toList_ofList] at hc
  exact isLow_of_mem_lowerAfter hc

/-! ## Code points -/

/-- Whether a number is a code point. -/
def isPoint (n : Nat) : Bool := n < 0x110000

theorem all_of_isChain {p : Nat → Bool} {m n : Nat} {ks : List Nat}
    (h : (m :: n :: ks).IsChain fun a b => (p a && p b) = true) :
    (m :: n :: ks).all p = true := by
  induction ks generalizing m n with
  | nil => simpa using h
  | cons k ks ih =>
    obtain ⟨hmn, htail⟩ := List.isChain_cons_cons.1 h
    rw [Bool.and_eq_true] at hmn
    rw [List.all_cons, ih htail, hmn.1]
    rfl

/-- A point without a character stands alone in its run. -/
theorem run_of_bare {ps run : Points}
    (hrun : run ∈ ps.splitBy fun a b => hasCharacter a && hasCharacter b)
    (hnone : charsOf? run = none) : ∃ n ∈ ps, run = [n] ∧ hasCharacter n = false := by
  have hbare : ¬ run.all hasCharacter = true := by
    intro hall
    rw [charsOf?, if_pos hall] at hnone
    cases hnone
  match run, hrun with
  | [], _ => exact absurd rfl hbare
  | [n], hrun =>
    have hn : n ∈ ps := by
      rw [← List.flatten_splitBy (fun a b => hasCharacter a && hasCharacter b) ps]
      exact List.mem_flatten_of_mem hrun (List.mem_singleton_self n)
    exact ⟨n, hn, rfl, by simpa using hbare⟩
  | _ :: _ :: _, hrun => exact absurd (all_of_isChain (List.isChain_of_mem_splitBy hrun)) hbare

/-- A point in lower case stands for a settled character, or for none. -/
theorem isLow_or_bare_of_mem_lowerPoints {ps : Points} {n : Nat} (h : n ∈ lowerPoints ps) :
    (hasCharacter n = true ∧ IsLow (Char.ofNat n)) ∨ (hasCharacter n = false ∧ n ∈ ps) := by
  obtain ⟨run, hrun, hn⟩ := List.mem_flatMap.1 h
  cases hchars : charsOf? run with
  | some cs =>
    rw [hchars] at hn
    obtain ⟨c, hc, rfl⟩ := List.mem_map.1 hn
    exact .inl ⟨decide_eq_true c.valid, by simpa using isLow_of_mem_lowerAfter hc⟩
  | none =>
    rw [hchars] at hn
    obtain ⟨m, hm, rfl, hbare⟩ := run_of_bare hrun hchars
    obtain rfl := List.mem_singleton.1 hn
    exact .inr ⟨hbare, hm⟩

theorem isLow_of_mem_hexDigits {width n : Nat} {c : Char} (h : c ∈ hexDigits width n) :
    IsLow c := by
  have hdigits : ∀ k < 16, IsLow (Nat.digitChar k) := by decide +kernel
  induction width generalizing n with
  | zero => cases h
  | succ width ih =>
    rcases List.mem_append.1 h with h | h
    · exact ih h
    · rw [List.mem_singleton.1 h]
      exact hdigits _ (Nat.mod_lt _ (by omega))

/-- The escape of a code point is settled when the point stands for no character. -/
theorem isLow_of_mem_codeEscape {n : Nat} {c : Char} (hpoint : isPoint n = true)
    (hbare : hasCharacter n = false) (h : c ∈ codeEscape n) : IsLow c := by
  simp only [isPoint, decide_eq_true_eq] at hpoint
  simp only [hasCharacter, decide_eq_false_iff_not, Nat.isValidChar] at hbare
  rw [codeEscape, if_neg (by omega), if_pos (by omega)] at h
  rcases List.mem_cons.1 h with rfl | h
  · decide +kernel
  · rcases List.mem_cons.1 h with rfl | h
    · decide +kernel
    · exact isLow_of_mem_hexDigits h

/-- What is shown of code points in lower case stays as it is in lower case. -/
theorem lowercase_shownPoints {ps : Points} (h : ps.all isPoint = true) :
    lowercase (shownPoints (lowerPoints ps)) = shownPoints (lowerPoints ps) := by
  apply lowercase_of_isLow
  intro c hc
  rw [shownPoints, String.toList_ofList] at hc
  obtain ⟨n, hn, hc⟩ := List.mem_flatMap.1 hc
  rcases isLow_or_bare_of_mem_lowerPoints hn with ⟨hchar, hlow⟩ | ⟨hbare, hin⟩
  · rw [if_pos hchar] at hc
    rw [List.mem_singleton.1 hc]
    exact hlow
  · rw [if_neg (by simp [hbare])] at hc
    exact isLow_of_mem_codeEscape (List.all_eq_true.1 h n hin) hbare hc

end ThreeBlock.Text
