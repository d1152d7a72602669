-- One token with a dash between its sides, and a row of such tokens. A token is
-- split at its first dash, so sides without a dash come back as they are. A row
-- of pairs breaks off at its first numeral that is too long, whatever faults
-- stand in front of it; without one its first fault is told.
import ThreeBlock.Proofs.Reading.Verdict
import ThreeBlock.Proofs.Rows
import ThreeBlock.Proofs.Text.Numerals
import ThreeBlock.Proofs.Text.Segments
import ThreeBlock.Reading.Pairs
namespace ThreeBlock

/-! ## Splitting -/

theorem splitAtDash_eq_some_iff {cs a b : List Char} :
    splitAtDash cs = some (a, b) ↔ cs = a ++ '-' :: b ∧ '-' ∉ a := by
  induction cs generalizing a with
  | nil => simp [splitAtDash]
  | cons c cs ih =>
    rw [splitAtDash]
    by_cases hc : c = '-'
    · rw [if_pos hc]
      constructor
      · intro h
        cases h
        exact ⟨congrArg (· :: _) hc, List.not_mem_nil⟩
      · rintro ⟨hcs, hdash⟩
        rcases a with _ | ⟨d, ds⟩
        · rw [(List.cons.inj hcs).2]
        · exact absurd ((List.cons.inj hcs).1.symm.trans hc ▸ List.mem_cons_self) hdash
    · rw [if_neg hc, Option.map_eq_some_iff]
      constructor
      · rintro ⟨⟨ds, es⟩, hsplit, h⟩
        obtain ⟨rfl, rfl⟩ := Prod.mk.inj h
        obtain ⟨rfl, hdash⟩ := ih.1 hsplit
        refine ⟨rfl, ?_⟩
        rw [List.mem_cons, not_or]
        exact ⟨Ne.symm hc, hdash⟩
      · rintro ⟨hcs, hdash⟩
        rcases a with _ | ⟨d, ds⟩
        · exact absurd (List.cons.inj hcs).1 hc
        · obtain ⟨rfl, rfl⟩ := List.cons.inj hcs
          rw [List.mem_cons, not_or] at hdash
          exact ⟨(ds, b), ih.2 ⟨rfl, hdash.2⟩, rfl⟩

theorem Sides.splitAtDash_eq {token a b : String} (h : Sides token a b) :
    splitAtDash token.toList = some (a.toList, b.toList) := by
  refine splitAtDash_eq_some_iff.2 ⟨?_, h.source.not_mem (by decide)⟩
  rw [h.spelled]
  simp

/-- A token has one pair of sides. -/
theorem Sides.unique {token a b c d : String} (h : Sides token a b) (h' : Sides token c d) :
    a = c ∧ b = d := by
  have hpair := h.splitAtDash_eq
  rw [h'.splitAtDash_eq, Option.some.injEq, Prod.mk.injEq] at hpair
  exact ⟨(String.toList_inj.1 hpair.1).symm, (String.toList_inj.1 hpair.2).symm⟩

theorem Sides.isSegment {token a b : String} (h : Sides token a b) : Text.IsSegment token := by
  have hink : ∀ c ∈ token.toList, Text.isBlank c = false ∧ c ≠ ';' := by
    intro c hc
    rw [h.spelled, String.toList_append, String.toList_append, List.mem_append,
      List.mem_append] at hc
    rcases hc with (hc | hc) | hc
    · exact ⟨isBlank_of_isIdentifierPart (h.source.part c hc),
        fun he => h.source.not_mem (by decide) (he ▸ hc)⟩
    · rw [List.mem_singleton.1 hc]
      decide
    · exact ⟨isBlank_of_isIdentifierPart (h.target.part c hc),
        fun he => h.target.not_mem (by decide) (he ▸ hc)⟩
  refine ⟨?_, fun c hc => (hink c hc).1, fun hc => (hink _ hc).2 rfl⟩
  rintro rfl
  have hlist := congrArg String.toList h.spelled
  simp at hlist

/-! ## Two numerals -/

/-- A token of the form `a-b` with digits alone on both sides. -/
structure Numbers (token a b : String) : Prop extends Sides token a b where
  sourceNumeral : IsNumeral a
  targetNumeral : IsNumeral b

/-- The first side with more digits than may be read has so many. -/
inductive LongSide (a b : String) : Nat → Prop
  | source : Text.numeralLimit < a.toList.length → LongSide a b a.toList.length
  | target : a.toList.length ≤ Text.numeralLimit → Text.numeralLimit < b.toList.length →
      LongSide a b b.toList.length

/-- A token without a numeral of more digits than may be read. -/
def HasShortSides (token : String) : Prop :=
  ∀ a b, Numbers token a b →
    a.toList.length ≤ Text.numeralLimit ∧ b.toList.length ≤ Text.numeralLimit

theorem longSide_or_short (a b : String) :
    (∃ digits, LongSide a b digits) ∨
      (a.toList.length ≤ Text.numeralLimit ∧ b.toList.length ≤ Text.numeralLimit) := by
  by_cases ha : a.toList.length ≤ Text.numeralLimit
  · by_cases hb : b.toList.length ≤ Text.numeralLimit
    · exact Or.inr ⟨ha, hb⟩
    · exact Or.inl ⟨_, .target ha (Nat.not_le.1 hb)⟩
  · exact Or.inl ⟨_, .source (Nat.not_le.1 ha)⟩

theorem isNumeral_toList_iff (side : String) :
    Text.isNumeral side.toList = true ↔ side ≠ "" ∧ IsNumeral side := by
  simp [Text.isNumeral, IsNumeral]

theorem IsNumeral.isWord {side : String} (h : IsNumeral side) (hne : side ≠ "") : IsWord side :=
  ⟨hne, fun c hc => (isIdentifierPart_iff c).2 (Or.inr (h c hc))⟩

theorem numeralPair_eq_some_iff {token : String} {a b : List Char} :
    numeralPair token.toList = some (a, b) ↔
      Numbers token (String.ofList a) (String.ofList b) := by
  have ha := isNumeral_toList_iff (String.ofList a)
  have hb := isNumeral_toList_iff (String.ofList b)
  rw [String.toList_ofList] at ha hb
  rw [numeralPair, Option.filter_eq_some_iff, splitAtDash_eq_some_iff, Bool.and_eq_true, ha, hb]
  constructor
  · rintro ⟨⟨hsplit, _⟩, ⟨hane, hanum⟩, hbne, hbnum⟩
    refine ⟨⟨?_, hanum.isWord hane, hbnum.isWord hbne⟩, hanum, hbnum⟩
    rw [← String.toList_inj, hsplit]
    simp
  · intro h
    have hdash := h.source.not_mem (d := '-') (by decide)
    rw [String.toList_ofList] at hdash
    refine ⟨⟨?_, hdash⟩, ⟨h.source.nonempty, h.sourceNumeral⟩, h.target.nonempty,
      h.targetNumeral⟩
    rw [h.spelled]
    simp

theorem numeralPair_of_numbers {token a b : String} (h : Numbers token a b) :
    numeralPair token.toList = some (a.toList, b.toList) := by
  rw [numeralPair_eq_some_iff, String.ofList_toList, String.ofList_toList]
  exact h

theorem numeralPair_eq_none {token : String} (h : ∀ a b, ¬ Numbers token a b) :
    numeralPair token.toList = none := by
  cases hpair : numeralPair token.toList with
  | none => rfl
  | some p => exact absurd (numeralPair_eq_some_iff.1 hpair) (h _ _)

/-! ## One token -/

section Tokens

variable {token a b : String}

theorem readPair_of_not_numbers (count : Nat) (h : ∀ a b, ¬ Numbers token a b) :
    readPair count token = .error (.fault (.malformedToken token 0)) := by
  simp only [readPair, numeralPair_eq_none h]

theorem readPair_of_long (count : Nat) (h : Numbers token a b) {digits : Nat}
    (hlong : LongSide a b digits) :
    readPair count token = .error (.abort (.numeralTooLong digits)) := by
  cases hlong with
  | source ha => simp only [readPair, numeralPair_of_numbers h, readNumeral_of_gt ha]
  | target ha hb =>
    simp only [readPair, numeralPair_of_numbers h, readNumeral_of_le ha, readNumeral_of_gt hb]

theorem readPair_of_short (count : Nat) (h : Numbers token a b)
    (ha : a.toList.length ≤ Text.numeralLimit) (hb : b.toList.length ≤ Text.numeralLimit) :
    readPair count token =
      if inRange count (valueOf a) && inRange count (valueOf b) then
        .ok (valueOf a, valueOf b)
      else .error (.fault (.positionOutOfRange token count)) := by
  simp only [readPair, numeralPair_of_numbers h, readNumeral_of_le ha, readNumeral_of_le hb]
  rfl

/-- Only a numeral that is too long breaks a token off. -/
theorem readPair_ne_abort (count : Nat) (h : HasShortSides token) (e : Abort) :
    readPair count token ≠ .error (.abort e) := by
  by_cases hform : ∃ a b, Numbers token a b
  · obtain ⟨a, b, hab⟩ := hform
    obtain ⟨ha, hb⟩ := h a b hab
    rw [readPair_of_short count hab ha hb]
    split <;> simp
  · rw [readPair_of_not_numbers count fun a b hab => hform ⟨a, b, hab⟩]
    simp

end Tokens

/-! ## A row of tokens -/

theorem firstAbort_append {α : Type} {before : List (Except Stop α)}
    (h : ∀ e, .error (.abort e) ∉ before) (rs : List (Except Stop α)) :
    firstAbort (before ++ rs) = firstAbort rs := by
  induction before with
  | nil => rfl
  | cons r rs ih =>
    have hrest := ih fun e he => h e (List.mem_cons_of_mem _ he)
    rcases r with (f | e) | x
    · exact hrest
    · exact absurd List.mem_cons_self (h e)
    · exact hrest

/-- The first abort ends the row, whatever faults stand in front of it. -/
theorem collectStops_of_first_abort {α : Type} {before : List (Except Stop α)}
    (h : ∀ e, .error (.abort e) ∉ before) (e : Abort) (after : List (Except Stop α)) :
    collectStops (before ++ .error (.abort e) :: after) = .error (.abort e) := by
  rw [collectStops, firstAbort_append h]
  rfl

/-- Without an abort the row is read up to its first fault. -/
theorem collectStops_eq_mapM {α : Type} {rs : List (Except Stop α)}
    (h : ∀ e, .error (.abort e) ∉ rs) : collectStops rs = rs.mapM id := by
  have hnone := firstAbort_append h []
  rw [List.append_nil] at hnone
  rw [collectStops, hnone]
  rfl

/-! ## Edges as positions -/

/-- An edge as a pair of positions: that of the entry it leaves, and that of its
target. -/
def Transition.spelled (states : StateList) (t : Transition) : String :=
  Text.intText t.entry ++ "-" ++ Text.natText (states.positionOf t.target)

/-- Edges as pairs of positions, with semicolons between. -/
def TransitionSet.spelled (states : StateList) (ts : TransitionSet) : String :=
  String.intercalate ";" (ts.edges.map (Transition.spelled states))

end ThreeBlock
