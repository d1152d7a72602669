-- The reading of declarations gives the verdict on their text, whatever the text
-- is. One token is looked at first, then a row of tokens up to the first bad one,
-- then the whole text.
import ThreeBlock.Proofs.Reading.Occurrences
import ThreeBlock.Proofs.Reading.Pairs
namespace ThreeBlock

/-! ## The sides of a token -/

theorem isIdentifierPart_dash : isIdentifierPart '-' = false := by decide

/-- A token is split into its two sides, if it has them. -/
theorem referencePair_eq_some_iff {token : String} {a b : List Char} :
    referencePair token.toList = some (a, b) ↔ Sides token (String.ofList a) (String.ofList b) := by
  rw [referencePair, Option.filter_eq_some_iff, splitAtDash_eq_some_iff]
  simp only [Bool.and_eq_true, Bool.not_eq_true', List.isEmpty_eq_false_iff, List.all_eq_true]
  constructor
  · rintro ⟨⟨hsplit, _⟩, ⟨⟨ha, hpa⟩, hb⟩, hpb⟩
    refine ⟨?_, ⟨?_, ?_⟩, ⟨?_, ?_⟩⟩
    · rw [← String.toList_inj, hsplit]
      simp
    · simpa using ha
    · simpa using hpa
    · simpa using hb
    · simpa using hpb
  · intro h
    have hdash := h.source.not_mem isIdentifierPart_dash
    have hsource := h.source
    have htarget := h.target
    refine ⟨⟨?_, by simpa using hdash⟩, ⟨⟨?_, ?_⟩, ?_⟩, ?_⟩
    · rw [h.spelled]
      simp
    · simpa using hsource.nonempty
    · simpa using hsource.part
    · simpa using htarget.nonempty
    · simpa using htarget.part

theorem referencePair_of_sides {token a b : String} (h : Sides token a b) :
    referencePair token.toList = some (a.toList, b.toList) := by
  rw [referencePair_eq_some_iff, String.ofList_toList, String.ofList_toList]
  exact h

theorem referencePair_eq_none {token : String} (h : ∀ a b, ¬ Sides token a b) :
    referencePair token.toList = none := by
  cases hpair : referencePair token.toList with
  | none => rfl
  | some p => exact absurd (referencePair_eq_some_iff.1 hpair) (h _ _)

/-! ## References -/

/-- A numeral is no identifier, so a reference is a position or a name and not
both. -/
theorem not_isNumeral_of_isIdentifier {s : String} (h : isIdentifier s = true) :
    ¬ IsNumeral s := by
  intro hs
  obtain ⟨c, cs, hc, hstart, _⟩ := (isIdentifier_iff s).1 h
  have hdigit := hs c (by rw [hc]; exact List.mem_cons_self)
  rw [isDigit_of_isIdentifierStart hstart] at hdigit
  cases hdigit

theorem ofChars_of_isNumeral {s : String} (h : IsNumeral s) :
    Reference.ofChars s.toList = .position s.toList :=
  if_pos (List.all_eq_true.2 h)

theorem ofChars_of_not_isNumeral {s : String} (h : ¬ IsNumeral s) :
    Reference.ofChars s.toList = .name s := by
  rw [Reference.ofChars, if_neg (mt List.all_eq_true.1 h), String.ofList_toList]

section References

variable {states : StateList} {u : Occurrence} {side : String}

theorem missing?_of_refers (h : Refers states.names side) :
    (Reference.ofChars side.toList).missing? states = none := by
  by_cases hn : IsNumeral side
  · rw [ofChars_of_isNumeral hn]
    rfl
  · have hmem := h.resolve_left hn
    rw [ofChars_of_not_isNumeral hn, Reference.missing?,
      if_neg (Nat.pos_iff_ne_zero.1 (StateList.positionOf_pos hmem))]

theorem missing?_of_not_refers (h : ¬ Refers states.names side) :
    (Reference.ofChars side.toList).missing? states = some side := by
  obtain ⟨hn, hmem⟩ := not_or.1 h
  rw [ofChars_of_not_isNumeral hn, Reference.missing?,
    if_pos (StateList.positionOf_eq_zero_iff.2 hmem)]

theorem length_le_of_not_isLong (hn : IsNumeral side) (h : ¬ IsLong side) :
    side.toList.length ≤ Text.numeralLimit :=
  Nat.not_lt.1 fun hlt => h ⟨hn, hlt⟩

theorem isOwn_eq_ok (hown : isIdentifier u.own = true)
    (hshort : ¬ IsLong side) :
    ∃ own, (Reference.ofChars side.toList).isOwn u.line u.own = .ok own ∧
      (own = true ↔ MeansLine u side) := by
  by_cases hn : IsNumeral side
  · have hne : side ≠ u.own := by
      rintro rfl
      exact not_isNumeral_of_isIdentifier hown hn
    refine ⟨valueOf side = u.line, ?_, ?_⟩
    · rw [ofChars_of_isNumeral hn, Reference.isOwn,
        readNumeral_of_le (length_le_of_not_isLong hn hshort)]
      rfl
    · simp [MeansLine, hne, hn]
  · refine ⟨side = u.own, ?_, ?_⟩
    · rw [ofChars_of_not_isNumeral hn, Reference.isOwn]
    · simp [MeansLine, hn]

theorem isOwn_of_isLong (h : IsLong side) : (Reference.ofChars side.toList).isOwn u.line u.own =
    .error (.numeralTooLong side.toList.length) := by
  rw [ofChars_of_isNumeral h.1, Reference.isOwn, readNumeral_of_gt h.2]
  rfl

theorem target?_of_isLong (h : IsLong side) : (Reference.ofChars side.toList).target? states =
    .error (.numeralTooLong side.toList.length) := by
  rw [ofChars_of_isNumeral h.1, Reference.target?, readNumeral_of_gt h.2]
  rfl

theorem target?_eq_ok (hnames : ∀ n ∈ states.names, isIdentifier n = true)
    (hrefers : Refers states.names side) (hshort : ¬ IsLong side) :
    ∃ target, (Reference.ofChars side.toList).target? states = .ok target ∧
      ∀ n, target = some n ↔ Means states.names side n := by
  by_cases hn : IsNumeral side
  · refine ⟨states.at? (valueOf side), ?_, ?_⟩
    · rw [ofChars_of_isNumeral hn, Reference.target?,
        readNumeral_of_le (length_le_of_not_isLong hn hshort)]
      rfl
    · intro n
      rw [StateList.at?_eq_some_iff]
      constructor
      · rintro ⟨i, hi, hname⟩
        have hvalue : valueOf side = i + 1 := by omega
        exact .position hn (by omega) (by rw [hvalue]; exact hname)
      · intro hmeans
        cases hmeans with
        | name hmem => exact absurd hn (not_isNumeral_of_isIdentifier (hnames _ hmem))
        | position _ hpos hname => exact ⟨valueOf side - 1, by omega, hname⟩
  · refine ⟨some side, ?_, ?_⟩
    · rw [ofChars_of_not_isNumeral hn, Reference.target?]
    · intro n
      constructor
      · rintro ⟨⟩
        exact .name (hrefers.resolve_left hn)
      · intro hmeans
        cases hmeans with
        | name _ => rfl
        | position hpos _ _ => exact absurd hpos hn

end References

/-! ## One token -/

/-- A token on a line of declared identifiers. -/
structure Occurrence.IsPlaced (states : StateList) (u : Occurrence) : Prop where
  named : ∀ n ∈ states.names, isIdentifier n = true
  own : u.own ∈ states.names

theorem Means.refers {names : List String} {side n : String} (h : Means names side n) :
    Refers names side := by
  cases h with
  | name hmem => exact Or.inr hmem
  | position hn _ _ => exact Or.inl hn

theorem MeansLine.refers {names : List String} {u : Occurrence} {side : String}
    (h : MeansLine u side) (hown : u.own ∈ names) : Refers names side := by
  rcases h with rfl | ⟨hn, _⟩
  · exact Or.inr hown
  · exact Or.inl hn

section Tokens

variable {states : StateList} {u : Occurrence} {a b : String}

theorem read_of_refers (hab : Sides u.token a b) (ha : Refers states.names a)
    (hb : Refers states.names b) :
    u.read states =
      ownEdge states u.line u.own u.token (Reference.ofChars a.toList)
        (Reference.ofChars b.toList) := by
  simp only [Occurrence.read, readEdge, referencePair_of_sides hab, missing?_of_refers ha,
    missing?_of_refers hb]
  rfl

/-- Where no numeral is too long, the source is told apart, and then the target. -/
theorem not_isLong_source (hshort : ∀ digits, ¬ LongReference states.names u digits)
    (hab : Sides u.token a b) (hb : Refers states.names b) : ¬ IsLong a := fun ha =>
  hshort _ (.source hab hb ha)

theorem not_isLong_target (hshort : ∀ digits, ¬ LongReference states.names u digits)
    (hab : Sides u.token a b) (hline : MeansLine u a) (hb : Refers states.names b) :
    ¬ IsLong b := fun hlong =>
  hshort _ (.target hab hline (not_isLong_source hshort hab hb) hlong)

/-- The edge of a good token is read. -/
theorem read_of_stands (h : u.IsPlaced states)
    (hshort : ∀ digits, ¬ LongReference states.names u digits) {t : Transition}
    (ht : Stands states.names u t) : u.read states = .ok t := by
  obtain ⟨hab, hline, hmeans⟩ := ht
  have hb := hmeans.refers
  obtain ⟨own, hown, hiff⟩ := isOwn_eq_ok (h.named _ h.own) (not_isLong_source hshort hab hb)
  obtain ⟨target, htarget, hmeans_iff⟩ :=
    target?_eq_ok h.named hb (not_isLong_target hshort hab hline hb)
  rw [hiff.2 hline] at hown
  rw [(hmeans_iff _).2 hmeans] at htarget
  rw [read_of_refers hab (hline.refers h.own) hb, ownEdge, hown]
  simp only [htarget]

/-- The fault of a bad token is told. -/
theorem read_of_objection (h : u.IsPlaced states)
    (hshort : ∀ digits, ¬ LongReference states.names u digits) {f : Fault}
    (hf : Objection states.names u f) : u.read states = .error (.fault f) := by
  cases hf with
  | malformed hnone => simp only [Occurrence.read, readEdge, referencePair_eq_none hnone]
  | noSource hab ha =>
    simp only [Occurrence.read, readEdge, referencePair_of_sides hab, missing?_of_not_refers ha]
    rfl
  | noTarget hab ha hb =>
    simp only [Occurrence.read, readEdge, referencePair_of_sides hab, missing?_of_refers ha,
      missing?_of_not_refers hb]
    rfl
  | foreign hab ha hb hline =>
    obtain ⟨own, hown, hiff⟩ := isOwn_eq_ok (h.named _ h.own) (not_isLong_source hshort hab hb)
    rw [Bool.eq_false_iff.2 (mt hiff.1 hline)] at hown
    rw [read_of_refers hab ha hb, ownEdge, hown]
  | outside hab ha hb hline hnone =>
    obtain ⟨own, hown, hiff⟩ := isOwn_eq_ok (h.named _ h.own) (not_isLong_source hshort hab hb)
    obtain ⟨target, htarget, hmeans⟩ :=
      target?_eq_ok h.named hb (not_isLong_target hshort hab hline hb)
    have hempty : target = none :=
      Option.eq_none_iff_forall_ne_some.2 fun n hn => hnone n ((hmeans n).1 hn)
    rw [hiff.2 hline] at hown
    rw [hempty] at htarget
    rw [read_of_refers hab ha hb, ownEdge, hown]
    simp only [htarget]
    rfl

/-- A numeral that is too long breaks the reading of a token off. -/
theorem read_of_longReference (h : u.IsPlaced states) {digits : Nat}
    (hlong : LongReference states.names u digits) :
    u.read states = .error (.abort (.numeralTooLong digits)) := by
  cases hlong with
  | source hab hb ha =>
    rw [read_of_refers hab (Or.inl ha.1) hb, ownEdge, isOwn_of_isLong ha]
  | target hab hline ha hb =>
    obtain ⟨own, hown, hiff⟩ := isOwn_eq_ok (h.named _ h.own) ha
    rw [hiff.2 hline] at hown
    rw [read_of_refers hab (hline.refers h.own) (Or.inl hb.1), ownEdge, hown]
    simp only [target?_of_isLong hb]

end Tokens

/-- Every token is good or bad. -/
theorem stands_or_objection (names : List String) (u : Occurrence) :
    (∃ t, Stands names u t) ∨ ∃ f, Objection names u f := by
  by_cases hform : ∃ a b, Sides u.token a b
  · obtain ⟨a, b, hab⟩ := hform
    by_cases ha : Refers names a
    · by_cases hb : Refers names b
      · by_cases hline : MeansLine u a
        · by_cases hmeans : ∃ n, Means names b n
          · obtain ⟨n, hn⟩ := hmeans
            exact Or.inl ⟨_, .edge hab hline hn⟩
          · exact Or.inr ⟨_, .outside hab ha hb hline (not_exists.1 hmeans)⟩
        · exact Or.inr ⟨_, .foreign hab ha hb hline⟩
      · exact Or.inr ⟨_, .noTarget hab ha hb⟩
    · exact Or.inr ⟨_, .noSource hab ha⟩
  · exact Or.inr ⟨_, .malformed fun a b hab => hform ⟨a, b, hab⟩⟩

/-! ## Whole texts -/

theorem isPlaced_of_mem_occurrences {raw : String}
    (hnames : ∀ n ∈ declaredNames raw, isIdentifier n = true) {u : Occurrence}
    (hu : u ∈ occurrences raw) : u.IsPlaced ⟨declaredNames raw⟩ :=
  ⟨hnames, StateList.mem_of_at? (at?_of_mem_occurrences hu)⟩

/-- A verdict on a text is what the reading gives. -/
theorem readDeclarations_of_verdict {raw : String}
    (hshort : ∀ u ∈ occurrences raw, HasShortNumerals u)
    {v : Except Fault (StateList × TransitionSet)} (hv : Verdict raw v) :
    readDeclarations raw = v.mapError Stop.fault := by
  cases hv with
  | tooFew hcount =>
    rw [readDeclarations, resolveDeclarations, map_name_readAll, StateList.ofNames,
      if_pos (show (declaredNames raw).length < fewestStates from hcount)]
    rfl
  | badNames hcount hbad =>
    obtain ⟨n, hn, hid⟩ := hbad
    have hinvalid : invalidNames (declaredNames raw) ≠ [] := by
      intro hnil
      rw [invalidNames_eq_nil_iff.1 hnil n hn] at hid
      cases hid
    rw [readDeclarations, resolveDeclarations, map_name_readAll, StateList.ofNames,
      if_neg (show ¬ (declaredNames raw).length < fewestStates by rw [fewestStates]; omega),
      if_neg hinvalid]
    rfl
  | accepted hcount hnames hedges =>
    have hread : ∀ u ∈ occurrences raw, ∀ t, Stands (declaredNames raw) u t →
        u.read ⟨declaredNames raw⟩ = .ok t :=
      fun u hu t ht => read_of_stands (isPlaced_of_mem_occurrences hnames hu)
        ((hshort u hu).not_longReference _) ht
    rw [readDeclarations_of_isIdentifier hcount hnames, mapM_of_forall₂ hedges hread]
    rfl
  | @refused before after u f hcount hnames hsplit hbefore hf =>
    have hgood : ∀ w ∈ before, ∃ t, w.read ⟨declaredNames raw⟩ = .ok t := by
      intro w hw
      have hmem : w ∈ occurrences raw := hsplit ▸ List.mem_append_left _ hw
      obtain ⟨t, ht⟩ := hbefore w hw
      exact ⟨t, read_of_stands (isPlaced_of_mem_occurrences hnames hmem)
        ((hshort w hmem).not_longReference _) ht⟩
    have hmem : u ∈ occurrences raw := hsplit ▸ (by simp)
    have hbad := read_of_objection (isPlaced_of_mem_occurrences hnames hmem)
      ((hshort u hmem).not_longReference _) hf
    rw [readDeclarations_of_isIdentifier hcount hnames, hsplit, mapM_of_first_error hgood hbad]
    rfl

theorem exists_verdict (raw : String) : ∃ v, Verdict raw v := by
  by_cases hcount : (declaredNames raw).length < 2
  · exact ⟨_, .tooFew hcount⟩
  · have hcount' : 2 ≤ (declaredNames raw).length := by omega
    by_cases hnames : ∀ n ∈ declaredNames raw, isIdentifier n = true
    · rcases forall₂_or_first (stands_or_objection (declaredNames raw)) (occurrences raw) with
        ⟨ts, hts⟩ | ⟨before, u, after, f, hsplit, hbefore, hf⟩
      · exact ⟨_, .accepted hcount' hnames hts⟩
      · exact ⟨_, .refused hcount' hnames hsplit hbefore hf⟩
    · refine ⟨_, .badNames hcount' ?_⟩
      simpa using hnames

/-- There is one verdict on every text, and the reading gives it: all names and
edges, or the first fault. -/
theorem the_reading_gives_the_verdict (raw : Option String)
    (hshort : ∀ u ∈ occurrences (raw.getD ""), HasShortNumerals u) :
    ∃ v, readDeclarations (raw.getD "") = v.mapError Stop.fault ∧
      ∀ w, Verdict (raw.getD "") w ↔ w = v := by
  obtain ⟨v, hv⟩ := exists_verdict (raw.getD "")
  have hread := readDeclarations_of_verdict hshort hv
  refine ⟨v, hread, fun w => ⟨fun hw => ?_, ?_⟩⟩
  · exact eq_of_mapError_fault ((readDeclarations_of_verdict hshort hw).symm.trans hread)
  · rintro rfl
    exact hv

/-- Names, numerals and a blank line, with the first bad token on the second line
that counts. -/
theorem the_third_target_of_two_is_refused :
    Verdict "IDLE;1-2;IDLE-RUN\n\n RUN ; 02-1;;RUN-3;7"
      (.error (.targetOutOfRange 2 "RUN-3" 2)) := by
  have hlength : ∀ u ∈ occurrences "IDLE;1-2;IDLE-RUN\n\n RUN ; 02-1;;RUN-3;7",
      u.token.toList.length ≤ Text.numeralLimit := by decide
  obtain ⟨v, hread, hv⟩ := the_reading_gives_the_verdict
    (some "IDLE;1-2;IDLE-RUN\n\n RUN ; 02-1;;RUN-3;7")
    fun u hu => hasShortNumerals_of_length_le (hlength u hu)
  have hfault : readDeclarations "IDLE;1-2;IDLE-RUN\n\n RUN ; 02-1;;RUN-3;7" =
      Except.mapError Stop.fault (.error (.targetOutOfRange 2 "RUN-3" 2)) := rfl
  exact (hv _).2 (eq_of_mapError_fault (hfault.symm.trans hread))

end ThreeBlock
