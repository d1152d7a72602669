-- What becomes of a text of pairs, told by what stands in it and not by how it is
-- read: the edge that a good token stands for, and the fault of the first bad
-- one. The reading gives just that when no numeral is too long.
import ThreeBlock.Proofs.Reading.Occurrences
import ThreeBlock.Proofs.Reading.Pairs
namespace ThreeBlock

/-! ## Good and bad tokens -/

/-- The tokens of a text of pairs: its trimmed fields, the blank ones left out. -/
def pairTokens (raw : String) : List String := (fieldsOf raw.toList).filter (· ≠ "")

/-- A numeral that stands for a position in a list of names. -/
def IsPosition (names : List String) (side : String) : Prop :=
  1 ≤ valueOf side ∧ valueOf side ≤ names.length

/-- The edge that a good token stands for: from the name at one position to the
name at the other. -/
inductive Connects (names : List String) (token : String) : Transition → Prop
  | edge {a b source target : String} : Numbers token a b → IsPosition names a →
      IsPosition names b → names[valueOf a - 1]? = some source →
      names[valueOf b - 1]? = some target → Connects names token ⟨source, target, valueOf a⟩

/-- The fault of a bad token. Its form comes first, then its positions. -/
inductive PairObjection (names : List String) (token : String) : Fault → Prop
  | malformed : (∀ a b, ¬ Numbers token a b) →
      PairObjection names token (.malformedToken token 0)
  | outside {a b : String} : Numbers token a b → ¬ (IsPosition names a ∧ IsPosition names b) →
      PairObjection names token (.positionOutOfRange token names.length)

/-- What a text of pairs gives over some states: its edges, or its first fault. -/
inductive PairsVerdict (names : List String) (raw : String) : Except Fault TransitionSet → Prop
  | empty : pairTokens raw = [] → PairsVerdict names raw (.error .noTransitions)
  | accepted {edges : List Transition} : pairTokens raw ≠ [] →
      List.Forall₂ (Connects names) (pairTokens raw) edges → PairsVerdict names raw (.ok ⟨edges⟩)
  | refused {before after : List String} {token : String} {f : Fault} :
      pairTokens raw = before ++ token :: after → (∀ w ∈ before, ∃ t, Connects names w t) →
      PairObjection names token f → PairsVerdict names raw (.error f)

/-! ## Positions -/

/-- Both positions of a pair lie in a state list. -/
def StateList.Holds (states : StateList) (p : Nat × Nat) : Prop :=
  (1 ≤ p.1 ∧ p.1 ≤ states.size) ∧ 1 ≤ p.2 ∧ p.2 ≤ states.size

instance (states : StateList) (p : Nat × Nat) : Decidable (states.Holds p) :=
  inferInstanceAs (Decidable (_ ∧ _))

section Positions

variable {states : StateList}

theorem inRange_iff {count n : Nat} : inRange count n = true ↔ 1 ≤ n ∧ n ≤ count := by
  simp [inRange]

theorem exists_at? {p : Nat} (h : 1 ≤ p ∧ p ≤ states.size) :
    ∃ n, states.at? p = some n ∧ states.names[p - 1]? = some n := by
  have hlt : p - 1 < states.names.length := by
    rw [StateList.size] at h
    omega
  have hget := List.getElem?_eq_getElem hlt
  refine ⟨_, ?_, hget⟩
  rw [StateList.at?_eq_some_iff]
  exact ⟨p - 1, by omega, hget⟩

/-- Between two positions of a list there is an edge. -/
theorem exists_between {p : Nat × Nat} (h : states.Holds p) :
    ∃ source target, Transition.between states (↑p.1, ↑p.2) = .ok ⟨source, target, p.1⟩ ∧
      states.names[p.1 - 1]? = some source ∧ states.names[p.2 - 1]? = some target := by
  obtain ⟨source, hsource, hat⟩ := exists_at? h.1
  obtain ⟨target, htarget, hat'⟩ := exists_at? h.2
  exact ⟨source, target, Transition.between_of_at? (t := ⟨source, target, p.1⟩) hsource htarget,
    hat, hat'⟩

/-- The edge between two positions of a list. -/
def StateList.edge (states : StateList) (p : Nat × Nat) : Transition :=
  ⟨(states.at? p.1).getD "", (states.at? p.2).getD "", p.1⟩

theorem between_eq_edge {p : Nat × Nat} (h : states.Holds p) :
    Transition.between states (↑p.1, ↑p.2) = .ok (states.edge p) := by
  obtain ⟨source, hsource, _⟩ := exists_at? h.1
  obtain ⟨target, htarget, _⟩ := exists_at? h.2
  apply Transition.between_of_at? (t := states.edge p)
  · simp [StateList.edge, hsource]
  · simp [StateList.edge, htarget]

theorem ofPositions_eq_edges {ps : List (Nat × Nat)} (h : ∀ p ∈ ps, states.Holds p) :
    TransitionSet.ofPositions states (ps.map fun p => (↑p.1, ↑p.2)) =
      .ok ⟨ps.map states.edge⟩ := by
  rw [TransitionSet.ofPositions, List.mapM_map]
  exact congrArg (Except.map TransitionSet.mk) (mapM_eq_ok_map fun p hp => between_eq_edge (h p hp))

end Positions

/-! ## The reading of tokens -/

section Tokens

variable {states : StateList} {raw token : String}

theorem segments_eq (raw : String) : Text.segments raw = pairTokens raw :=
  map_inkedPieces _

/-- The tokens are read first, and then the positions are looked up. -/
theorem TransitionSet.read_of_tokens (states : StateList) (hne : pairTokens raw ≠ []) :
    TransitionSet.read raw states =
      (collectStops ((pairTokens raw).map (readPair states.size))).bind fun ps =>
        (ofPositions states (ps.map fun p => (↑p.1, ↑p.2))).mapError .abort := by
  unfold TransitionSet.read
  rw [segments_eq]
  cases htokens : pairTokens raw with
  | nil => exact absurd htokens hne
  | cons t ts =>
    dsimp only
    cases collectStops ((t :: ts).map (readPair states.size)) <;> rfl

theorem collectStops_of_short (hshort : ∀ token ∈ pairTokens raw, HasShortSides token)
    (count : Nat) : collectStops ((pairTokens raw).map (readPair count)) =
      (pairTokens raw).mapM (readPair count) := by
  rw [collectStops_eq_mapM, List.mapM_map]
  · rfl
  · intro e he
    obtain ⟨token, htoken, hread⟩ := List.mem_map.1 he
    exact readPair_ne_abort count (hshort token htoken) e hread

theorem readPair_of_positions {a b : String} (h : Numbers token a b) (hshort : HasShortSides token)
    (ha : IsPosition states.names a) (hb : IsPosition states.names b) :
    readPair states.size token = .ok (valueOf a, valueOf b) := by
  obtain ⟨hla, hlb⟩ := hshort a b h
  have hina : inRange states.size (valueOf a) = true := inRange_iff.2 ha
  have hinb : inRange states.size (valueOf b) = true := inRange_iff.2 hb
  rw [readPair_of_short _ h hla hlb, hina, hinb]
  rfl

/-- The fault of a bad token is told. -/
theorem readPair_of_objection (hshort : HasShortSides token) {f : Fault}
    (h : PairObjection states.names token f) :
    readPair states.size token = .error (.fault f) := by
  cases h with
  | malformed hform => exact readPair_of_not_numbers _ hform
  | @outside a b hab hout =>
    obtain ⟨ha, hb⟩ := hshort a b hab
    rw [readPair_of_short _ hab ha hb, if_neg]
    · rfl
    · rw [Bool.and_eq_true, inRange_iff, inRange_iff]
      exact hout

/-- Every token is good or bad. -/
theorem connects_or_objection (names : List String) (token : String) :
    (∃ t, Connects names token t) ∨ ∃ f, PairObjection names token f := by
  by_cases hform : ∃ a b, Numbers token a b
  · obtain ⟨a, b, hab⟩ := hform
    by_cases hin : IsPosition names a ∧ IsPosition names b
    · obtain ⟨source, target, _, hsource, htarget⟩ :=
        exists_between (show StateList.Holds ⟨names⟩ (valueOf a, valueOf b) from hin)
      exact Or.inl ⟨_, .edge hab hin.1 hin.2 hsource htarget⟩
    · exact Or.inr ⟨_, .outside hab hin⟩
  · exact Or.inr ⟨_, .malformed fun a b hab => hform ⟨a, b, hab⟩⟩

end Tokens

/-! ## Whole texts -/

section Texts

variable {states : StateList} {raw : String}

/-- Tokens that are pairs of positions are read to the edges between them. -/
theorem TransitionSet.read_of_pairs {ps : List (Nat × Nat)} (hne : pairTokens raw ≠ [])
    (hshort : ∀ token ∈ pairTokens raw, HasShortSides token)
    (hps : (pairTokens raw).mapM (readPair states.size) = .ok ps) :
    TransitionSet.read raw states =
      (ofPositions states (ps.map fun p => (↑p.1, ↑p.2))).mapError .abort := by
  rw [read_of_tokens states hne, collectStops_of_short hshort, hps]
  rfl

/-- Good tokens are pairs of positions, and their edges are those between them. -/
theorem exists_pairs {tokens : List String} {edges : List Transition}
    (h : List.Forall₂ (Connects states.names) tokens edges)
    (hshort : ∀ token ∈ tokens, HasShortSides token) :
    ∃ ps : List (Nat × Nat), tokens.mapM (readPair states.size) = .ok ps ∧
      ps.mapM (fun p => Transition.between states (↑p.1, ↑p.2)) = .ok edges := by
  induction h with
  | nil => exact ⟨[], rfl, rfl⟩
  | @cons token t tokens edges ht _ ih =>
    obtain ⟨htoken, htokens⟩ := List.forall_mem_cons.1 hshort
    obtain ⟨ps, hps, hedges⟩ := ih htokens
    cases ht with
    | @edge a b source target hab ha hb hsource htarget =>
      obtain ⟨source', target', hbetween, hsource', htarget'⟩ :=
        exists_between (show states.Holds (valueOf a, valueOf b) from ⟨ha, hb⟩)
      obtain rfl : source = source' := Option.some.inj (hsource.symm.trans hsource')
      obtain rfl : target = target' := Option.some.inj (htarget.symm.trans htarget')
      refine ⟨(valueOf a, valueOf b) :: ps, ?_, ?_⟩
      · rw [List.mapM_cons, readPair_of_positions hab htoken ha hb, hps]
        rfl
      · rw [List.mapM_cons, hbetween, hedges]
        rfl

/-- A verdict on a text of pairs is what the reading gives. -/
theorem TransitionSet.read_of_verdict (hshort : ∀ token ∈ pairTokens raw, HasShortSides token)
    {v : Except Fault TransitionSet} (hv : PairsVerdict states.names raw v) :
    TransitionSet.read raw states = v.mapError Stop.fault := by
  cases hv with
  | empty hnone =>
    unfold TransitionSet.read
    rw [segments_eq, hnone]
    rfl
  | @accepted edges hne hedges =>
    obtain ⟨ps, hps, hrow⟩ := exists_pairs hedges hshort
    have hset : ofPositions states (ps.map fun p => (↑p.1, ↑p.2)) = .ok ⟨edges⟩ := by
      rw [ofPositions, List.mapM_map]
      exact congrArg (Except.map TransitionSet.mk) hrow
    rw [read_of_pairs hne hshort hps, hset]
    rfl
  | @refused before after token f hsplit hbefore hf =>
    have hgood : ∀ w ∈ before, ∃ p, readPair states.size w = .ok p := by
      intro w hw
      have hmem : w ∈ pairTokens raw := hsplit ▸ List.mem_append_left _ hw
      obtain ⟨t, ht⟩ := hbefore w hw
      cases ht with
      | edge hab ha hb _ _ => exact ⟨_, readPair_of_positions hab (hshort w hmem) ha hb⟩
    have htoken : token ∈ pairTokens raw := hsplit ▸ (by simp)
    have hbad := readPair_of_objection (hshort token htoken) hf
    rw [read_of_tokens states (by simp [hsplit]), collectStops_of_short hshort, hsplit,
      mapM_of_first_error hgood hbad]
    rfl

theorem exists_pairsVerdict (names : List String) (raw : String) :
    ∃ v, PairsVerdict names raw v := by
  by_cases hnone : pairTokens raw = []
  · exact ⟨_, .empty hnone⟩
  · rcases forall₂_or_first (connects_or_objection names) (pairTokens raw) with
      ⟨edges, hedges⟩ | ⟨before, token, after, f, hsplit, hbefore, hf⟩
    · exact ⟨_, .accepted hnone hedges⟩
    · exact ⟨_, .refused hsplit hbefore hf⟩

end Texts

end ThreeBlock
