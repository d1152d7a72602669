-- Pairs of positions written down. Blanks around the tokens, empty fields between
-- them and zeros in front of their numerals do not count: the text is read to the
-- edges between the positions, also when names are repeated.
import ThreeBlock.Proofs.Reading.Positions
import ThreeBlock.Proofs.Text.Padding
import ThreeBlock.Proofs.Transition
namespace ThreeBlock

/-! ## Pairs written down -/

/-- The numeral of a number, with zeros in front. -/
def zeroPadded (zeros n : Nat) : String :=
  String.ofList (List.replicate zeros '0' ++ Text.numeral n)

/-- A pair of numbers as a token whose numerals may be read, with zeros in front
of them. -/
inductive PairWritten : Nat × Nat → String → Prop
  | zeros {i j : Nat} (k l : Nat) : k + (Text.numeral i).length ≤ Text.numeralLimit →
      l + (Text.numeral j).length ≤ Text.numeralLimit →
      PairWritten (i, j) (zeroPadded k i ++ "-" ++ zeroPadded l j)

/-- Pairs of numbers as a text: one token for each, with blanks around it, and
semicolons between; blank fields may stand anywhere. -/
def PairsWritten (ps : List (Nat × Nat)) (raw : String) : Prop :=
  ∃ tokens pieces, List.Forall₂ PairWritten ps tokens ∧ Text.Padded tokens pieces ∧
    raw = String.ofList ([';'].intercalate pieces)

theorem toList_zeroPadded (zeros n : Nat) :
    (zeroPadded zeros n).toList = List.replicate zeros '0' ++ Text.numeral n := by
  simp [zeroPadded]

theorem isNumeral_zeroPadded (zeros n : Nat) : IsNumeral (zeroPadded zeros n) := by
  intro c hc
  rw [toList_zeroPadded, List.mem_append] at hc
  rcases hc with hc | hc
  · rw [(List.mem_replicate.1 hc).2]
    decide
  · exact Text.isDigit_of_mem_numeral hc

theorem zeroPadded_ne_empty (zeros n : Nat) : zeroPadded zeros n ≠ "" := by
  intro h
  have hlist := congrArg String.toList h
  simp [toList_zeroPadded, Text.numeral_ne_nil] at hlist

/-- Zeros in front of a numeral do not count. -/
theorem valueOf_zeroPadded (zeros n : Nat) : valueOf (zeroPadded zeros n) = n := by
  have hzeros : Text.numeralValueFrom 0 (List.replicate zeros '0') = 0 := by
    induction zeros with
    | zero => rfl
    | succ k ih => exact ih
  rw [valueOf, toList_zeroPadded, Text.numeralValue, Text.numeralValueFrom, List.foldl_append]
  change Text.numeralValueFrom (Text.numeralValueFrom 0 (List.replicate zeros '0')) _ = n
  rw [hzeros]
  exact Text.numeralValue_numeral n

theorem length_zeroPadded (zeros n : Nat) :
    (zeroPadded zeros n).toList.length = zeros + (Text.numeral n).length := by
  simp [toList_zeroPadded]

theorem numbers_zeroPadded (k l i j : Nat) :
    Numbers (zeroPadded k i ++ "-" ++ zeroPadded l j) (zeroPadded k i) (zeroPadded l j) where
  spelled := rfl
  source := (isNumeral_zeroPadded k i).isWord (zeroPadded_ne_empty k i)
  target := (isNumeral_zeroPadded l j).isWord (zeroPadded_ne_empty l j)
  sourceNumeral := isNumeral_zeroPadded k i
  targetNumeral := isNumeral_zeroPadded l j

/-! ## Reading them back -/

section Written

variable {states : StateList} {ps : List (Nat × Nat)} {raw : String}

theorem PairWritten.readPair_eq {p : Nat × Nat} {token : String} (h : PairWritten p token)
    (hin : states.Holds p) : readPair states.size token = .ok p := by
  cases h with
  | @zeros i j k l hk hl =>
    have hinrange : (inRange states.size i && inRange states.size j) = true := by
      rw [Bool.and_eq_true, inRange_iff, inRange_iff]
      exact hin
    rw [readPair_of_short _ (numbers_zeroPadded k l i j) (by rwa [length_zeroPadded])
      (by rwa [length_zeroPadded]), valueOf_zeroPadded, valueOf_zeroPadded, if_pos hinrange]

theorem PairWritten.hasShortSides {p : Nat × Nat} {token : String} (h : PairWritten p token) :
    HasShortSides token := by
  cases h with
  | @zeros i j k l hk hl =>
    intro a b hab
    obtain ⟨rfl, rfl⟩ := hab.unique (numbers_zeroPadded k l i j).toSides
    rw [length_zeroPadded, length_zeroPadded]
    exact ⟨hk, hl⟩

theorem PairWritten.isSegment {p : Nat × Nat} {token : String} (h : PairWritten p token) :
    Text.IsSegment token := by
  cases h with
  | zeros k l _ _ => exact (numbers_zeroPadded k l _ _).isSegment

theorem forall₂_pairTokens (h : PairsWritten ps raw) :
    List.Forall₂ PairWritten ps (pairTokens raw) := by
  obtain ⟨tokens, pieces, htokens, hpadded, rfl⟩ := h
  have hsegment : ∀ token ∈ tokens, Text.IsTrimmed token := by
    intro token htoken
    obtain ⟨p, _, hp⟩ := exists_of_forall₂ htokens token htoken
    exact hp.isSegment.isTrimmed
  rw [← segments_eq, Text.segments_of_padded hpadded hsegment]
  exact htokens

/-- Pairs that were written down are read to the edges between them. -/
theorem TransitionSet.read_of_written (h : PairsWritten ps raw) (hne : ps ≠ [])
    (hin : ∀ p ∈ ps, states.Holds p) :
    TransitionSet.read raw states =
      (ofPositions states (ps.map fun p => (↑p.1, ↑p.2))).mapError .abort := by
  have htokens := forall₂_pairTokens h
  have hsome : pairTokens raw ≠ [] := by
    intro hnil
    rw [hnil] at htokens
    cases htokens
    exact hne rfl
  have hshort : ∀ token ∈ pairTokens raw, HasShortSides token := by
    intro token htoken
    obtain ⟨p, _, hp⟩ := exists_of_forall₂ htokens token htoken
    exact hp.hasShortSides
  have hboth := (List.forall₂_and_left ps (pairTokens raw)).2 ⟨hin, htokens⟩
  have hps : (pairTokens raw).mapM (readPair states.size) = .ok ps :=
    mapM_of_forall₂ hboth.flip fun token _ p hp => hp.2.readPair_eq hp.1
  exact read_of_pairs hsome hshort hps

end Written

/-! ## Plain texts -/

/-- A pair of numbers as a plain token. -/
def pairText (p : Nat × Nat) : String := Text.natText p.1 ++ "-" ++ Text.natText p.2

/-- Pairs of numbers as a plain text, with semicolons between. -/
def pairsText (ps : List (Nat × Nat)) : String := String.intercalate ";" (ps.map pairText)

theorem pairWritten_pairText {p : Nat × Nat} (h : p.1 < 10 ^ Text.numeralLimit)
    (h' : p.2 < 10 ^ Text.numeralLimit) : PairWritten p (pairText p) := by
  have hzeros := PairWritten.zeros (i := p.1) (j := p.2) 0 0
    (by rw [Nat.zero_add]; exact Text.numeral_length_le h)
    (by rw [Nat.zero_add]; exact Text.numeral_length_le h')
  exact hzeros

/-- A plain text is one way to write its pairs down. -/
theorem pairsWritten_pairsText {states : StateList} {ps : List (Nat × Nat)}
    (hin : ∀ p ∈ ps, states.Holds p) (hsize : states.size < 10 ^ Text.numeralLimit) :
    PairsWritten ps (pairsText ps) := by
  refine ⟨ps.map pairText, (ps.map pairText).map String.toList, ?_, Text.padded_self _, ?_⟩
  · rw [List.forall₂_map_right_iff, List.forall₂_same]
    intro p hp
    obtain ⟨⟨_, hsource⟩, _, htarget⟩ := hin p hp
    exact pairWritten_pairText (Nat.lt_of_le_of_lt hsource hsize)
      (Nat.lt_of_le_of_lt htarget hsize)
  · rw [← String.toList_inj, pairsText, String.toList_ofList, String.toList_intercalate]
    rfl

theorem TransitionSet.read_pairsText {states : StateList} {ps : List (Nat × Nat)} (hne : ps ≠ [])
    (hin : ∀ p ∈ ps, states.Holds p) (hsize : states.size < 10 ^ Text.numeralLimit) :
    TransitionSet.read (pairsText ps) states =
      (ofPositions states (ps.map fun p => (↑p.1, ↑p.2))).mapError .abort :=
  read_of_written (pairsWritten_pairsText hin hsize) hne hin

namespace IsJoined

variable {states : StateList} {ts : TransitionSet} {t : Transition}

theorem spelled_eq (h : IsJoined states ts) (ht : t ∈ ts.edges) :
    t.spelled states = pairText (t.positions states) := by
  rw [Transition.spelled, h.entry_eq ht]
  rfl

/-- Edges spelled as pairs of positions are read back. -/
theorem read_spelled (h : IsJoined states ts) (hne : ts.edges ≠ [])
    (hsize : states.size < 10 ^ Text.numeralLimit) :
    TransitionSet.read (ts.spelled states) states = .ok ts := by
  have htext : ts.spelled states = pairsText (ts.edges.map (Transition.positions states)) := by
    rw [TransitionSet.spelled, pairsText, List.map_map]
    exact congrArg _ (List.map_congr_left fun t ht => h.spelled_eq ht)
  have hin : ∀ p ∈ ts.edges.map (Transition.positions states), states.Holds p := by
    intro p hp
    obtain ⟨t, ht, rfl⟩ := List.mem_map.1 hp
    exact ⟨h.source_in_range ht, h.target_in_range ht⟩
  rw [htext, TransitionSet.read_pairsText (by simpa using hne) hin hsize, h.ofPositions_positions]
  rfl

end IsJoined

/-! ## The reading as a whole -/

theorem hasShortSides_of_length_le {token : String}
    (h : token.toList.length ≤ Text.numeralLimit) : HasShortSides token := by
  intro a b hab
  have hlength : token.toList.length = a.toList.length + (b.toList.length + 1) := by
    rw [hab.spelled]
    simp
  omega

/-- There is one verdict on every text of pairs, and the reading gives it; and pairs
of positions that were written down give the edges between them. -/
theorem pairs_are_read_as_they_stand (states : StateList) :
    (∀ raw : Option String, (∀ token ∈ pairTokens (raw.getD ""), HasShortSides token) →
      ∃ v, TransitionSet.read (raw.getD "") states = v.mapError Stop.fault ∧
        ∀ w, PairsVerdict states.names (raw.getD "") w ↔ w = v) ∧
    ∀ (ps : List (Nat × Nat)) (raw : String), ps ≠ [] → (∀ p ∈ ps, states.Holds p) →
      PairsWritten ps raw →
      ∃ ts, TransitionSet.ofPositions states (ps.map fun p => (↑p.1, ↑p.2)) = .ok ts ∧
        TransitionSet.read raw states = .ok ts := by
  constructor
  · intro raw hshort
    obtain ⟨v, hv⟩ := exists_pairsVerdict states.names (raw.getD "")
    have hread := TransitionSet.read_of_verdict hshort hv
    refine ⟨v, hread, fun w => ⟨fun hw => ?_, ?_⟩⟩
    · exact eq_of_mapError_fault ((TransitionSet.read_of_verdict hshort hw).symm.trans hread)
    · rintro rfl
      exact hv
  · intro ps raw hne hin hwritten
    have hedges := ofPositions_eq_edges hin
    refine ⟨_, hedges, ?_⟩
    rw [TransitionSet.read_of_written hwritten hne hin, hedges]
    rfl

/-- Zeros, blanks and an empty field are passed over, and the leftmost bad token is
told although a worse one stands behind it. -/
theorem the_fourth_state_of_three_is_refused :
    PairsVerdict ["A", "B", "A"] "1-02;; 4-1 ;x" (.error (.positionOutOfRange "4-1" 3)) ∧
      PairsWritten [(1, 2), (3, 1)] " 01-2;;\t3-001 " ∧
      TransitionSet.read " 01-2;;\t3-001 " ⟨["A", "B", "A"]⟩ =
        .ok ⟨[⟨"A", "B", 1⟩, ⟨"A", "A", 3⟩]⟩ := by
  have hlength : ∀ token ∈ pairTokens "1-02;; 4-1 ;x",
      token.toList.length ≤ Text.numeralLimit := by decide
  obtain ⟨hverdicts, hpairs⟩ := pairs_are_read_as_they_stand ⟨["A", "B", "A"]⟩
  obtain ⟨v, hread, hv⟩ := hverdicts (some "1-02;; 4-1 ;x")
    fun token htoken => hasShortSides_of_length_le (hlength token htoken)
  have hfault : TransitionSet.read "1-02;; 4-1 ;x" ⟨["A", "B", "A"]⟩ =
      Except.mapError Stop.fault (.error (.positionOutOfRange "4-1" 3)) := rfl
  have hnone : Text.IsGap [] := by decide
  have hspace : Text.IsGap [' '] := by decide
  have htab : Text.IsGap ['\t'] := by decide
  have hwritten : PairsWritten [(1, 2), (3, 1)] " 01-2;;\t3-001 " :=
    ⟨["01-2", "3-001"], [" 01-2".toList, [], "\t3-001 ".toList],
      .cons (.zeros 1 0 (by decide) (by decide)) (.cons (.zeros 0 2 (by decide) (by decide)) .nil),
      .segment hspace hnone (.gap hnone (.segment htab hspace .nil)),
      by decide⟩
  obtain ⟨ts, hts, hback⟩ := hpairs _ _ (by decide) (by decide) hwritten
  obtain rfl : (⟨[⟨"A", "B", 1⟩, ⟨"A", "A", 3⟩]⟩ : TransitionSet) = ts := Except.ok.inj hts
  exact ⟨(hv _).2 (eq_of_mapError_fault (hfault.symm.trans hread)), hwritten, hback⟩

end ThreeBlock
