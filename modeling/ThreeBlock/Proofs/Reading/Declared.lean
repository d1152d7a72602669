-- Pairs of positions written as declarations: one line for each entry, with the pairs
-- that leave it. Each side of a pair may be told by its position or by the name of
-- its entry. What is read are the edges of the pairs, sorted by the entry that they
-- leave, also when names are repeated.
import Mathlib.Data.Nat.Basic
import ThreeBlock.Proofs.Reading.Declarations
import ThreeBlock.Proofs.Reading.Written
import ThreeBlock.Proofs.Sorting
import ThreeBlock.Proofs.Text.Lines
namespace ThreeBlock

/-! ## Pairs declared -/

/-- A pair of positions, and which of its sides are told by name. -/
structure PairTold where
  pair : Nat × Nat
  sourceByName : Bool := false
  targetByName : Bool := false
  deriving DecidableEq, Repr

/-- A position as its numeral, or as the name of its entry. -/
def StateList.told (states : StateList) (byName : Bool) (p : Nat) : String :=
  if byName then (states.at? p).getD "" else Text.natText p

/-- The token of a pair. -/
def PairTold.token (states : StateList) (q : PairTold) : String :=
  states.told q.sourceByName q.pair.1 ++ "-" ++ states.told q.targetByName q.pair.2

/-- The pairs that leave an entry, in order. -/
def leavingPairs (qs : List PairTold) (p : Nat) : List PairTold := qs.filter fun q => q.pair.1 = p

/-- The line of an entry: its name, and the tokens of the pairs that leave it. -/
def declarationLine (states : StateList) (qs : List PairTold) (e : Nat × String) : String :=
  String.intercalate ";" (e.2 :: (leavingPairs qs e.1).map (PairTold.token states))

/-- The lines of all entries, with line feeds between. -/
def declarationText (states : StateList) (qs : List PairTold) : String :=
  String.intercalate "\n" (states.numbered.map (declarationLine states qs))

/-! ## The sides of a pair -/

section Sides

variable {states : StateList} {p : Nat} {n : String}

theorem told_true (h : states.at? p = some n) : states.told true p = n := by
  simp [StateList.told, h]

theorem told_false : states.told false p = zeroPadded 0 p := rfl

theorem isWord_told (hnames : ∀ m ∈ states.names, isIdentifier m = true) (byName : Bool)
    (h : states.at? p = some n) : IsWord (states.told byName p) := by
  cases byName with
  | false => exact (isNumeral_zeroPadded 0 p).isWord (zeroPadded_ne_empty 0 p)
  | true =>
    rw [told_true h]
    exact isWord_of_isIdentifier (hnames n (StateList.mem_of_at? h))

theorem means_told (byName : Bool) (h : states.at? p = some n) :
    Means states.names (states.told byName p) n := by
  cases byName with
  | false =>
    obtain ⟨i, hi, hname⟩ := StateList.at?_eq_some_iff.1 h
    obtain rfl : p = i + 1 := by omega
    rw [told_false]
    refine .position (isNumeral_zeroPadded 0 _) ?_ ?_
    · rw [valueOf_zeroPadded]
      omega
    · rw [valueOf_zeroPadded]
      exact hname
  | true =>
    rw [told_true h]
    exact .name (StateList.mem_of_at? h)

theorem meansLine_told (byName : Bool) {u : Occurrence} (h : states.at? u.line = some u.own) :
    MeansLine u (states.told byName u.line) := by
  cases byName with
  | false => exact Or.inr ⟨isNumeral_zeroPadded 0 _, valueOf_zeroPadded 0 _⟩
  | true => exact Or.inl (told_true h)

theorem length_told_le (hnames : ∀ m ∈ states.names, isIdentifier m = true) (byName : Bool)
    (h : states.at? p = some n) (hp : p < 10 ^ Text.numeralLimit)
    (hnumeral : IsNumeral (states.told byName p)) :
    (states.told byName p).toList.length ≤ Text.numeralLimit := by
  cases byName with
  | false =>
    rw [told_false, length_zeroPadded, Nat.zero_add]
    exact Text.numeral_length_le hp
  | true =>
    rw [told_true h] at hnumeral
    exact absurd hnumeral (not_isNumeral_of_isIdentifier (hnames n (StateList.mem_of_at? h)))

end Sides

/-! ## The token of a pair -/

/-- The token of a pair, on the line of the entry that the pair leaves. -/
def PairTold.occurrence (states : StateList) (q : PairTold) : Occurrence :=
  ⟨q.pair.1, (states.edge q.pair).source, q.token states⟩

section Tokens

variable {states : StateList} {q : PairTold}

theorem PairTold.sides (hnames : ∀ m ∈ states.names, isIdentifier m = true)
    (h : states.Holds q.pair) :
    Sides (q.token states) (states.told q.sourceByName q.pair.1)
      (states.told q.targetByName q.pair.2) := by
  obtain ⟨source, hsource, _⟩ := exists_at? h.1
  obtain ⟨target, htarget, _⟩ := exists_at? h.2
  exact ⟨rfl, isWord_told hnames _ hsource, isWord_told hnames _ htarget⟩

/-- A token stands for the edge of its pair. -/
theorem PairTold.stands (hnames : ∀ m ∈ states.names, isIdentifier m = true)
    (h : states.Holds q.pair) : Stands states.names (q.occurrence states) (states.edge q.pair) := by
  obtain ⟨source, hsource, _⟩ := exists_at? h.1
  obtain ⟨target, htarget, _⟩ := exists_at? h.2
  have hown : states.at? (q.occurrence states).line = some (q.occurrence states).own := by
    rw [occurrence, StateList.edge, hsource]
    rfl
  have hmeans : Means states.names (states.told q.targetByName q.pair.2)
      (states.edge q.pair).target := by
    rw [StateList.edge, htarget]
    exact means_told _ htarget
  exact .edge (PairTold.sides hnames h) (meansLine_told q.sourceByName hown) hmeans

theorem PairTold.hasShortNumerals (hnames : ∀ m ∈ states.names, isIdentifier m = true)
    (h : states.Holds q.pair) (hsize : states.size < 10 ^ Text.numeralLimit) :
    HasShortNumerals (q.occurrence states) := by
  intro a b hab side hside hnumeral
  obtain ⟨rfl, rfl⟩ := Sides.unique hab (PairTold.sides hnames h)
  obtain ⟨source, hsource, _⟩ := exists_at? h.1
  obtain ⟨target, htarget, _⟩ := exists_at? h.2
  rcases hside with rfl | rfl
  · exact length_told_le hnames _ hsource (Nat.lt_of_le_of_lt h.1.2 hsize) hnumeral
  · exact length_told_le hnames _ htarget (Nat.lt_of_le_of_lt h.2.2 hsize) hnumeral

end Tokens

/-! ## A line of segments -/

section Lines

variable {pieces : List String}

/-- Segments with semicolons between are the fields of their line. -/
theorem fieldsOf_intercalate (h : ∀ p ∈ pieces, Text.IsSegment p) (hne : pieces ≠ []) :
    fieldsOf (String.intercalate ";" pieces).toList = pieces := by
  have hwhole : ∀ p ∈ pieces.map String.toList, ';' ∉ p := by
    intro p hp
    obtain ⟨s, hs, rfl⟩ := List.mem_map.1 hp
    exact (h s hs).whole
  have hcut : Text.cut ';' (String.intercalate ";" pieces).toList = pieces.map String.toList := by
    rw [String.toList_intercalate]
    exact Text.cut_intercalate hwhole (by simpa using hne)
  rw [fieldsOf, hcut, List.map_map]
  conv_rhs => rw [← List.map_id pieces]
  apply List.map_congr_left
  intro s hs
  rw [Function.comp_apply, Text.trim_of_inked (h s hs).inked, String.ofList_toList, id]

theorem inked_intercalate (h : ∀ p ∈ pieces, Text.IsSegment p) :
    ∀ c ∈ (String.intercalate ";" pieces).toList, Text.isBlank c = false := by
  rw [String.toList_intercalate]
  induction pieces with
  | nil => simp
  | cons p ps ih =>
    obtain ⟨hp, hps⟩ := List.forall_mem_cons.1 h
    have hrest := ih hps
    cases ps with
    | nil => simpa using hp.inked
    | cons r rs =>
      have hsemicolon : ∀ c ∈ [';'], Text.isBlank c = false := by
        intro c hc
        rw [List.mem_singleton.1 hc]
        decide
      rw [List.map_cons, List.map_cons, List.intercalate_cons_cons, List.forall_mem_append,
        List.forall_mem_append]
      exact ⟨⟨hp.inked, hsemicolon⟩, hrest⟩

theorem toList_intercalate_ne_nil (h : ∀ p ∈ pieces, Text.IsSegment p) (hne : pieces ≠ []) :
    (String.intercalate ";" pieces).toList ≠ [] := by
  intro hnil
  have hfields := fieldsOf_intercalate h hne
  rw [hnil] at hfields
  exact (h "" (by rw [← hfields]; decide)).nonempty rfl

end Lines

/-! ## The whole text -/

section Texts

variable {states : StateList} {qs : List PairTold}

theorem isSegment_declarationLine (hnames : ∀ m ∈ states.names, isIdentifier m = true)
    (hin : ∀ q ∈ qs, states.Holds q.pair) {e : Nat × String} (he : e ∈ states.numbered) :
    ∀ p ∈ e.2 :: (leavingPairs qs e.1).map (PairTold.token states), Text.IsSegment p := by
  refine List.forall_mem_cons.2 ⟨?_, fun p hp => ?_⟩
  · have hmem := StateList.mem_of_at? (StateList.mem_numbered.1 he)
    exact (isWord_of_isIdentifier (hnames _ hmem)).isSegment
  · obtain ⟨q, hq, rfl⟩ := List.mem_map.1 hp
    exact (PairTold.sides hnames (hin q (List.mem_filter.1 hq).1)).isSegment

/-- Each entry has its line, and every line has ink. -/
theorem inkedLines_declarationText (hnames : ∀ m ∈ states.names, isIdentifier m = true)
    (hin : ∀ q ∈ qs, states.Holds q.pair) :
    inkedLines (declarationText states qs) =
      states.numbered.map fun e => (declarationLine states qs e).toList := by
  have hline : ∀ l ∈ states.numbered.map (fun e => (declarationLine states qs e).toList),
      l ≠ [] ∧ ∀ c ∈ l, Text.isBlank c = false := by
    intro l hl
    obtain ⟨e, he, rfl⟩ := List.mem_map.1 hl
    have hpieces := isSegment_declarationLine hnames hin he
    exact ⟨toList_intercalate_ne_nil hpieces (by simp), inked_intercalate hpieces⟩
  have hlines : Text.lines (declarationText states qs).toList =
      states.numbered.map fun e => (declarationLine states qs e).toList := by
    rw [declarationText, String.toList_intercalate, List.map_map]
    exact Text.lines_intercalate
      (fun l hl c hc => Text.isLineBreak_of_not_isBlank ((hline l hl).2 c hc))
      fun l hl => (hline l hl).1
  rw [inkedLines, hlines, List.filter_eq_self]
  intro l hl
  obtain ⟨hne, hink⟩ := hline l hl
  obtain ⟨c, hc⟩ := List.exists_mem_of_ne_nil _ hne
  exact List.any_eq_true.2 ⟨c, hc, by simp [hink c hc]⟩

theorem fieldsOf_declarationLine (hnames : ∀ m ∈ states.names, isIdentifier m = true)
    (hin : ∀ q ∈ qs, states.Holds q.pair) {e : Nat × String} (he : e ∈ states.numbered) :
    fieldsOf (declarationLine states qs e).toList =
      e.2 :: (leavingPairs qs e.1).map (PairTold.token states) :=
  fieldsOf_intercalate (isSegment_declarationLine hnames hin he) (by simp)

theorem declaredNames_declarationText (hnames : ∀ m ∈ states.names, isIdentifier m = true)
    (hin : ∀ q ∈ qs, states.Holds q.pair) :
    declaredNames (declarationText states qs) = states.names := by
  rw [declaredNames, inkedLines_declarationText hnames hin, List.map_map,
    ← StateList.map_snd_numbered]
  apply List.map_congr_left
  intro e he
  rw [Function.comp_apply, nameOf, fieldsOf_declarationLine hnames hin he]
  rfl

theorem tokensOf_declarationLine (hnames : ∀ m ∈ states.names, isIdentifier m = true)
    (hin : ∀ q ∈ qs, states.Holds q.pair) {e : Nat × String} (he : e ∈ states.numbered) :
    tokensOf (declarationLine states qs e).toList =
      (leavingPairs qs e.1).map (PairTold.token states) := by
  rw [tokensOf, fieldsOf_declarationLine hnames hin he, List.tail_cons, List.filter_eq_self]
  intro token htoken
  have hsegment := isSegment_declarationLine hnames hin he token (List.mem_cons_of_mem _ htoken)
  simpa using hsegment.nonempty

/-- The tokens of a text are those of the pairs, sorted by the entry that they
leave. -/
theorem occurrences_declarationText (hnames : ∀ m ∈ states.names, isIdentifier m = true)
    (hin : ∀ q ∈ qs, states.Holds q.pair) :
    occurrences (declarationText states qs) =
      (sortBy (fun q => q.pair.1) qs).map (PairTold.occurrence states) := by
  have hkeys : sortBy (fun q => q.pair.1) qs =
      states.numbered.flatMap fun e => leavingPairs qs e.1 := by
    have hcovered : ∀ q ∈ qs, q.pair.1 ∈ List.range' 1 states.size := by
      intro q hq
      have hholds := (hin q hq).1
      rw [List.mem_range'_1]
      omega
    rw [sortBy_eq_flatMap _ List.pairwise_lt_range' hcovered, ← StateList.map_fst_numbered,
      List.flatMap_map]
    rfl
  have hline : ∀ e ∈ states.numbered,
      (tokensOf (declarationLine states qs e).toList).map
          (Occurrence.mk e.1 (nameOf (declarationLine states qs e).toList)) =
        (leavingPairs qs e.1).map (PairTold.occurrence states) := by
    intro e he
    rw [tokensOf_declarationLine hnames hin he, nameOf, fieldsOf_declarationLine hnames hin he,
      List.map_map]
    apply List.map_congr_left
    intro q hq
    have hq := of_decide_eq_true (List.mem_filter.1 hq).2
    have hat := StateList.mem_numbered.1 he
    rw [Function.comp_apply, PairTold.occurrence, StateList.edge, hq, hat]
    rfl
  rw [occurrences, inkedLines_declarationText hnames hin, StateList.numbered,
    StateList.zipIdx_map_numberFrom, List.flatMap_map, hkeys, List.map_flatMap]
  exact List.flatMap_congr hline

/-- Pairs that were declared are read to their edges, sorted by the entry that they
leave. -/
theorem readDeclarations_declarationText (hcount : 2 ≤ states.size)
    (hnames : ∀ m ∈ states.names, isIdentifier m = true) (hin : ∀ q ∈ qs, states.Holds q.pair)
    (hsize : states.size < 10 ^ Text.numeralLimit) :
    readDeclarations (declarationText states qs) =
      .ok (states, ⟨(sortBy Prod.fst (qs.map PairTold.pair)).map states.edge⟩) := by
  have hdeclared := declaredNames_declarationText hnames hin
  have hoccurrences := occurrences_declarationText hnames hin
  have hmem : ∀ q ∈ sortBy (fun q => q.pair.1) qs, states.Holds q.pair := fun q hq =>
    hin q (mem_sortBy.1 hq)
  have hstands : List.Forall₂ (Stands states.names) (occurrences (declarationText states qs))
      ((sortBy Prod.fst (qs.map PairTold.pair)).map states.edge) := by
    rw [hoccurrences, ← map_sortBy, List.map_map, List.forall₂_map_left_iff,
      List.forall₂_map_right_iff]
    exact List.forall₂_same.2 fun q hq => PairTold.stands hnames (hmem q hq)
  have hshort : ∀ u ∈ occurrences (declarationText states qs), HasShortNumerals u := by
    intro u hu
    rw [hoccurrences] at hu
    obtain ⟨q, hq, rfl⟩ := List.mem_map.1 hu
    exact PairTold.hasShortNumerals hnames (hmem q hq) hsize
  rw [← hdeclared] at hstands
  have hverdict := Verdict.accepted (by rw [hdeclared]; exact hcount)
    (by rw [hdeclared]; exact hnames) hstands
  rw [readDeclarations_of_verdict hshort hverdict, hdeclared]
  rfl

end Texts

end ThreeBlock
