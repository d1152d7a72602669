-- The one thing that ends a request with neither a machine nor a fault: a numeral
-- with more digits than may be read. Which numeral that is can be told from the
-- text alone.
import ThreeBlock.Proofs.Acceptance
import ThreeBlock.Proofs.Reading.Declarations
namespace ThreeBlock

/-! ## Texts at which the reading breaks off -/

/-- The reading of some pairs breaks off at the first numeral that is too long. All
tokens are read, so it does not count what else is wrong in front of it. -/
def PairsBreakOff (raw : String) (digits : Nat) : Prop :=
  ∃ before token after a b, pairTokens raw = before ++ token :: after ∧
    (∀ w ∈ before, HasShortSides w) ∧ Numbers token a b ∧ LongSide a b digits

/-- A token that stands for an edge, without a numeral that is too long. -/
def IsGood (names : List String) (u : Occurrence) : Prop :=
  (∃ t, Stands names u t) ∧ ∀ digits, ¬ LongReference names u digits

/-- The reading of some declarations breaks off at a numeral that is too long when
all that stands in front of it is good, the names included. -/
def DeclarationsBreakOff (raw : String) (digits : Nat) : Prop :=
  2 ≤ (declaredNames raw).length ∧ (∀ n ∈ declaredNames raw, isIdentifier n = true) ∧
    ∃ before u after, occurrences raw = before ++ u :: after ∧
      (∀ w ∈ before, IsGood (declaredNames raw) w) ∧ LongReference (declaredNames raw) u digits

/-- A request breaks off when one of its texts does. The pairs are not looked at
unless there are states for them, and a ring has no numerals at all. -/
def Request.BreaksOff : Request → Nat → Prop
  | .fast _, _ => False
  | .advanced raw spec, digits =>
    (∃ states, StateList.read (raw.getD "") = .ok states) ∧ PairsBreakOff (spec.getD "") digits
  | .inline raw, digits => DeclarationsBreakOff (raw.getD "") digits

/-! ## Pairs of positions -/

section Pairs

variable {raw : String} {states : StateList} {digits : Nat} {a : Abort}

theorem TransitionSet.read_of_breakOff (states : StateList) (h : PairsBreakOff raw digits) :
    TransitionSet.read raw states = .error (.abort (.numeralTooLong digits)) := by
  obtain ⟨before, token, after, a, b, hsplit, hbefore, hab, hlong⟩ := h
  have hquiet : ∀ e, .error (.abort e) ∉ before.map (readPair states.size) := by
    intro e he
    obtain ⟨w, hw, hread⟩ := List.mem_map.1 he
    exact readPair_ne_abort _ (hbefore w hw) e hread
  rw [read_of_tokens states (by simp [hsplit]), hsplit, List.map_append, List.map_cons,
    readPair_of_long _ hab hlong, collectStops_of_first_abort hquiet]
  rfl

theorem TransitionSet.read_eq_abort_iff :
    TransitionSet.read raw states = .error (.abort a) ↔
      ∃ digits, a = .numeralTooLong digits ∧ PairsBreakOff raw digits := by
  constructor
  · intro h
    rcases forall_or_first HasShortSides (pairTokens raw) with
      hshort | ⟨before, token, after, hsplit, hbefore, htoken⟩
    · obtain ⟨v, hv⟩ := exists_pairsVerdict states.names raw
      rw [read_of_verdict hshort hv, mapError_eq_error_iff] at h
      obtain ⟨f, _, hf⟩ := h
      cases hf
    · simp only [HasShortSides, not_forall] at htoken
      obtain ⟨x, y, hxy, hlong⟩ := htoken
      obtain ⟨digits, hdigits⟩ := (longSide_or_short x y).resolve_right hlong
      have hbreak : PairsBreakOff raw digits :=
        ⟨before, token, after, x, y, hsplit, hbefore, hxy, hdigits⟩
      rw [read_of_breakOff states hbreak] at h
      cases h
      exact ⟨digits, rfl, hbreak⟩
  · rintro ⟨digits, rfl, h⟩
    exact read_of_breakOff states h

end Pairs

/-! ## Declarations -/

section Tokens

variable {states : StateList} {u : Occurrence} {a : Abort}

theorem read_eq_abort_iff (h : u.IsPlaced states) :
    u.read states = .error (.abort a) ↔
      ∃ digits, a = .numeralTooLong digits ∧ LongReference states.names u digits := by
  constructor
  · intro hread
    by_cases hlong : ∃ digits, LongReference states.names u digits
    · obtain ⟨digits, hlong⟩ := hlong
      rw [read_of_longReference h hlong] at hread
      cases hread
      exact ⟨digits, rfl, hlong⟩
    · rcases stands_or_objection states.names u with ⟨t, ht⟩ | ⟨f, hf⟩
      · rw [read_of_stands h (not_exists.1 hlong) ht] at hread
        cases hread
      · rw [read_of_objection h (not_exists.1 hlong) hf] at hread
        cases hread
  · rintro ⟨digits, rfl, hlong⟩
    exact read_of_longReference h hlong

theorem exists_read_eq_ok_iff (h : u.IsPlaced states) :
    (∃ t, u.read states = .ok t) ↔ IsGood states.names u := by
  constructor
  · rintro ⟨t, hread⟩
    have hshort : ∀ digits, ¬ LongReference states.names u digits := by
      intro digits hlong
      rw [read_of_longReference h hlong] at hread
      cases hread
    rcases stands_or_objection states.names u with ht | ⟨f, hf⟩
    · exact ⟨ht, hshort⟩
    · rw [read_of_objection h hshort hf] at hread
      cases hread
  · rintro ⟨⟨t, ht⟩, hshort⟩
    exact ⟨t, read_of_stands h hshort ht⟩

end Tokens

theorem readDeclarations_eq_abort_iff {raw : String} {a : Abort} :
    readDeclarations raw = .error (.abort a) ↔
      ∃ digits, a = .numeralTooLong digits ∧ DeclarationsBreakOff raw digits := by
  by_cases hstates : 2 ≤ (declaredNames raw).length ∧
      ∀ n ∈ declaredNames raw, isIdentifier n = true
  · obtain ⟨hcount, hnames⟩ := hstates
    have hplaced : ∀ w ∈ occurrences raw, w.IsPlaced ⟨declaredNames raw⟩ := fun w hw =>
      isPlaced_of_mem_occurrences hnames hw
    rw [readDeclarations_of_isIdentifier hcount hnames, map_eq_error_iff, mapM_eq_error_iff]
    constructor
    · rintro ⟨before, u, after, hsplit, hbefore, hread⟩
      rw [hsplit] at hplaced
      obtain ⟨digits, rfl, hlong⟩ := (read_eq_abort_iff (hplaced u (by simp))).1 hread
      refine ⟨digits, rfl, hcount, hnames, before, u, after, hsplit, fun w hw => ?_, hlong⟩
      exact (exists_read_eq_ok_iff (hplaced w (List.mem_append_left _ hw))).1 (hbefore w hw)
    · rintro ⟨digits, rfl, _, _, before, u, after, hsplit, hbefore, hlong⟩
      rw [hsplit] at hplaced
      refine ⟨before, u, after, hsplit, fun w hw => ?_, ?_⟩
      · exact (exists_read_eq_ok_iff (hplaced w (List.mem_append_left _ hw))).2 (hbefore w hw)
      · exact read_of_longReference (hplaced u (by simp)) hlong
  · -- The names are refused, so no token is read.
    have hfault : ∃ f, StateList.ofNames (declaredNames raw) = .error f := by
      cases hnames : StateList.ofNames (declaredNames raw) with
      | error f => exact ⟨f, rfl⟩
      | ok states =>
        obtain ⟨hcount, hnamed, _⟩ := StateList.ofNames_eq_ok_iff.1 hnames
        exact absurd ⟨hcount, hnamed⟩ hstates
    obtain ⟨f, hf⟩ := hfault
    rw [readDeclarations, resolveDeclarations, map_name_readAll, hf]
    constructor
    · intro h
      cases h
    · rintro ⟨_, _, hcount, hnames, _⟩
      exact absurd ⟨hcount, hnames⟩ hstates

/-! ## Requests -/

namespace Request

/-- A machine that was read is written or refused, so only its reading can break
off. -/
theorem generate_eq_abort_iff {r : Request} {settings : Settings} {a : Abort} :
    r.generate settings = .error (.abort a) ↔ r.read.value = .error (.abort a) := by
  constructor
  · intro h
    cases hread : r.read.value with
    | error s =>
      rw [generate_of_read_error hread] at h
      cases h
      rfl
    | ok d =>
      obtain ⟨start, hstart⟩ := (isJoined_of_read hread).spelled.exists_reset
      rw [generate_of_read hread] at h
      cases herrors : (Report.startingIn start settings.strict d).errors with
      | nil =>
        rw [value_finish_of_clean _ _ hstart herrors] at h
        cases h
      | cons f fs =>
        rw [value_finish_of_error _ _ hstart herrors] at h
        cases h
  · intro h
    exact generate_of_read_error h settings

theorem read_eq_abort_iff {r : Request} {a : Abort} :
    r.read.value = .error (.abort a) ↔
      ∃ digits, a = .numeralTooLong digits ∧ r.BreaksOff digits := by
  cases r with
  | fast raw =>
    rw [value_fast, map_eq_error_iff, mapError_eq_error_iff]
    simp [BreaksOff]
  | advanced raw spec =>
    rw [value_advanced, bind_eq_error_iff, mapError_eq_error_iff]
    simp only [mapError_eq_ok_iff, map_eq_error_iff, TransitionSet.read_eq_abort_iff, BreaksOff]
    constructor
    · rintro (⟨f, _, hf⟩ | ⟨states, hstates, digits, rfl, hbreak⟩)
      · cases hf
      · exact ⟨digits, rfl, ⟨states, hstates⟩, hbreak⟩
    · rintro ⟨digits, rfl, ⟨states, hstates⟩, hbreak⟩
      exact Or.inr ⟨states, hstates, digits, rfl, hbreak⟩
  | inline raw =>
    rw [value_inline, map_eq_error_iff, readDeclarations_eq_abort_iff]
    rfl

end Request

/-! ## Whatever the input -/

/-- A value or a fault comes of a step just when nothing breaks it off; else the step
tells how many digits the numeral has. -/
structure IsAnsweredUnless {α : Type} (breaks : Nat → Prop) (x : Except Stop α) : Prop where
  answered : (∃ v : Except Fault α, x = v.mapError Stop.fault) ↔ ∀ digits, ¬ breaks digits
  broken : ∀ digits, breaks digits → x = .error (.abort (.numeralTooLong digits))

theorem isAnsweredUnless_of_abort_iff {α : Type} {breaks : Nat → Prop} {x : Except Stop α}
    (h : ∀ a, x = .error (.abort a) ↔ ∃ digits, a = .numeralTooLong digits ∧ breaks digits) :
    IsAnsweredUnless breaks x := by
  have hbroken : ∀ digits, breaks digits → x = .error (.abort (.numeralTooLong digits)) :=
    fun digits hdigits => (h _).2 ⟨digits, rfl, hdigits⟩
  refine ⟨⟨?_, fun hnone => ?_⟩, hbroken⟩
  · rintro ⟨v, hv⟩ digits hdigits
    have hboth := hv.symm.trans (hbroken digits hdigits)
    obtain ⟨f, _, hf⟩ := mapError_eq_error_iff.1 hboth
    cases hf
  · rcases x with (f | a) | y
    · exact ⟨.error f, rfl⟩
    · obtain ⟨digits, _, hdigits⟩ := (h a).1 rfl
      exact absurd hdigits (hnone digits)
    · exact ⟨.ok y, rfl⟩

/-- Every reading and every request gives a value or a fault, unless it breaks off at a
numeral that is too long. -/
theorem only_long_numerals_break_off (raw : Option String) (states : StateList)
    (settings : Settings) (r : Request) :
    IsAnsweredUnless (PairsBreakOff (raw.getD "")) (TransitionSet.read (raw.getD "") states) ∧
      IsAnsweredUnless (DeclarationsBreakOff (raw.getD "")) (readDeclarations (raw.getD "")) ∧
      IsAnsweredUnless r.BreaksOff (r.generate settings) := by
  have hgenerate : ∀ a, r.generate settings = .error (.abort a) ↔
      ∃ digits, a = .numeralTooLong digits ∧ r.BreaksOff digits := by
    intro a
    rw [Request.generate_eq_abort_iff, Request.read_eq_abort_iff]
  exact ⟨isAnsweredUnless_of_abort_iff fun _ => TransitionSet.read_eq_abort_iff,
    isAnsweredUnless_of_abort_iff fun _ => readDeclarations_eq_abort_iff,
    isAnsweredUnless_of_abort_iff hgenerate⟩

/-- A one with 4300 zeros in front of it is a position of the list, and yet the reading
breaks off. -/
theorem a_padded_one_breaks_off :
    TransitionSet.read (zeroPadded 4300 1 ++ "-2") ⟨["A", "B"]⟩ =
        .error (.abort (.numeralTooLong 4301)) ∧
      ¬ ∀ (raw : String) (states : StateList), ∃ v : Except Fault TransitionSet,
        TransitionSet.read raw states = v.mapError Stop.fault := by
  have hnumbers : Numbers (zeroPadded 4300 1 ++ "-2") (zeroPadded 4300 1) (zeroPadded 0 2) := by
    have hpadded := numbers_zeroPadded 4300 0 1 2
    rw [String.append_assoc] at hpadded
    exact hpadded
  have hlength : (zeroPadded 4300 1).toList.length = 4301 := by
    rw [length_zeroPadded]
    rfl
  have htokens : pairTokens (zeroPadded 4300 1 ++ "-2") = [zeroPadded 4300 1 ++ "-2"] := by
    rw [← segments_eq]
    exact Text.segments_of_isSegment hnumbers.isSegment
  have hbreak : PairsBreakOff (zeroPadded 4300 1 ++ "-2") 4301 := by
    refine ⟨[], _, [], _, _, htokens, by simp, hnumbers, ?_⟩
    rw [← hlength]
    exact .source (by rw [hlength]; decide)
  have hread := TransitionSet.read_of_breakOff ⟨["A", "B"]⟩ hbreak
  refine ⟨hread, fun h => ?_⟩
  obtain ⟨v, hv⟩ := h (zeroPadded 4300 1 ++ "-2") ⟨["A", "B"]⟩
  rw [hread] at hv
  obtain ⟨f, _, hf⟩ := mapError_eq_error_iff.1 hv.symm
  cases hf

end ThreeBlock
