-- The laws of requests. What a request gives hangs on the machine that it
-- describes and on nothing else, so two ways to describe one machine agree:
-- declarations, and the names and positions that they come to.
import ThreeBlock.Proofs.Log.Steady
import ThreeBlock.Proofs.Reading.Occurrences
import ThreeBlock.Proofs.Reading.Written
namespace ThreeBlock

namespace Request

/-! ## What a request hangs on -/

theorem value_write (mode mode' : String) (stateMap : Bool) (d : Definition) (r : Report) :
    (write mode stateMap d r).value = (write mode' stateMap d r).value := by
  cases h : Hdl.render d.flavor stateMap d.states d.transitions with
  | ok code => exact (takes_write h).value_eq.trans (takes_write h).value_eq.symm
  | error a =>
    unfold write Hdl.renderLogged
    rw [h]
    rfl

/-- The way a request generates shows in its log alone. -/
theorem value_finish (mode mode' : String) (settings : Settings) (d : Definition) :
    (finish mode settings d).value = (finish mode' settings d).value := by
  cases h : Report.review settings.strict d with
  | error a =>
    unfold finish Report.reviewLogged
    rw [h]
    rfl
  | ok r =>
    cases herrors : r.errors with
    | cons f fs =>
      rw [(takes_finish_error h herrors).value_eq, (takes_finish_error h herrors).value_eq]
    | nil =>
      rw [(takes_finish h herrors (isSteady_write mode settings.stateMap d r)).value_eq,
        (takes_finish h herrors (isSteady_write mode' settings.stateMap d r)).value_eq]
      exact value_write mode mode' settings.stateMap d r

theorem generate_of_read_error {r : Request} {s : Stop} (h : r.read.value = .error s)
    (settings : Settings) : r.generate settings = .error s :=
  (takes_run_error settings h).value_eq

theorem generate_of_read {r : Request} {d : Definition} (h : r.read.value = .ok d)
    (settings : Settings) : r.generate settings = (finish r.mode settings d).value :=
  (takes_run settings h).value_eq

/-- Requests that describe one machine give the same. -/
theorem generate_eq_of_read_eq {r q : Request} (h : r.read.value = q.read.value)
    (settings : Settings) : r.generate settings = q.generate settings := by
  cases hq : q.read.value with
  | error s => rw [generate_of_read_error (h.trans hq), generate_of_read_error hq]
  | ok d =>
    rw [generate_of_read (h.trans hq), generate_of_read hq]
    exact value_finish _ _ _ _

/-! ## The machine of a request -/

theorem value_fast (raw : Option String) :
    (read (.fast raw)).value =
      ((StateList.read (raw.getD "")).mapError Stop.fault).map fun states =>
        ⟨states, .ring states, .cyclic⟩ := by
  refine (value_whenRead _ fun states => (takes_ring states).isSteady).trans ?_
  cases StateList.read (raw.getD "") with
  | error e => rfl
  | ok states => exact (takes_ring states).value_eq

theorem value_advanced (raw spec : Option String) :
    (read (.advanced raw spec)).value =
      ((StateList.read (raw.getD "")).mapError Stop.fault).bind fun states =>
        (TransitionSet.read (spec.getD "") states).map fun ts => ⟨states, ts, .explicit⟩ := by
  have htakes : ∀ states, (defined (fun ts => ⟨states, ts, .explicit⟩)
      (TransitionSet.readLogged (spec.getD "") states)).Takes
        ((TransitionSet.read (spec.getD "") states).map fun ts => ⟨states, ts, .explicit⟩) _ :=
    fun states => takes_defined (TransitionSet.takes_readLogged _ states)
  refine (value_whenRead _ fun states => (htakes states).isSteady).trans ?_
  cases StateList.read (raw.getD "") with
  | error e => rfl
  | ok states => exact (htakes states).value_eq

theorem value_advanced_of_states {raw : Option String} {states : StateList}
    (h : StateList.read (raw.getD "") = .ok states) (spec : Option String) :
    (read (.advanced raw spec)).value =
      (TransitionSet.read (spec.getD "") states).map fun ts => ⟨states, ts, .explicit⟩ := by
  rw [value_advanced, h]
  rfl

theorem value_inline (raw : Option String) :
    (read (.inline raw)).value =
      (readDeclarations (raw.getD "")).map fun r => ⟨r.1, r.2, .explicit⟩ :=
  (takes_defined (takes_readDeclarationsLogged _)).value_eq

theorem value_read_inline {raw : Option String} {states : StateList} {ts : TransitionSet}
    (h : readDeclarations (raw.getD "") = .ok (states, ts)) :
    (read (.inline raw)).value = .ok ⟨states, ts, .explicit⟩ := by
  rw [value_inline, h]
  rfl

theorem value_read_advanced {names spec : String} {states : StateList} {ts : TransitionSet}
    (hnames : StateList.read names = .ok states) (hspec : TransitionSet.read spec states = .ok ts) :
    (read (.advanced (some names) (some spec))).value = .ok ⟨states, ts, .explicit⟩ := by
  have hstates : StateList.read ((some names).getD "") = .ok states := hnames
  rw [value_advanced_of_states hstates, Option.getD_some, hspec]
  rfl

end Request

/-! ## Names as a text -/

/-- The names of a state list, with semicolons between. -/
def StateList.spelled (states : StateList) : String := String.intercalate ";" states.names

/-- A state list spelled out is read back. -/
theorem IsJoined.read_names {states : StateList} {ts : TransitionSet} (h : IsJoined states ts) :
    StateList.read states.spelled = .ok states := by
  have hcount := h.count
  have hsegments : Text.segments states.spelled = states.names :=
    Text.segments_intercalate fun n hn =>
      (isWord_of_isIdentifier (h.named n hn)).isSegment.isTrimmed
  rw [StateList.read, hsegments]
  exact StateList.ofNames_eq_ok_iff.2 ⟨hcount, h.named, rfl⟩

/-! ## Two ways to one machine -/

/-- Declarations with an edge give what the names and positions give that they
come to, text, warnings and faults alike. -/
theorem declarations_and_positions_agree {raw : Option String} {states : StateList}
    {ts : TransitionSet} (h : readDeclarations (raw.getD "") = .ok (states, ts))
    (hne : ts.edges ≠ []) (hsize : states.size < 10 ^ Text.numeralLimit) (settings : Settings) :
    Request.generate settings (.inline raw) =
      Request.generate settings (.advanced (some states.spelled) (some (ts.spelled states))) := by
  have hjoined := isJoined_of_readDeclarations h
  apply Request.generate_eq_of_read_eq
  rw [Request.value_read_inline h,
    Request.value_read_advanced hjoined.read_names (hjoined.read_spelled hne hsize)]

/-- A repeated name and padded numerals: the last edge leaves the second entry of
its name. -/
theorem repeated_names_agree_with_their_positions :
    readDeclarations "A;1-02;A-A\nB;B-01\nA;3-B" =
        .ok (⟨["A", "B", "A"]⟩,
          ⟨[⟨"A", "B", 1⟩, ⟨"A", "A", 1⟩, ⟨"B", "A", 2⟩, ⟨"A", "B", 3⟩]⟩) ∧
      Request.generate {} (.inline (some "A;1-02;A-A\nB;B-01\nA;3-B")) =
        Request.generate {} (.advanced (some "A;B;A") (some "1-2;1-1;2-1;3-2")) := by
  have h : readDeclarations ((some "A;1-02;A-A\nB;B-01\nA;3-B").getD "") =
      .ok (⟨["A", "B", "A"]⟩,
        ⟨[⟨"A", "B", 1⟩, ⟨"A", "A", 1⟩, ⟨"B", "A", 2⟩, ⟨"A", "B", 3⟩]⟩) := rfl
  have hsize : StateList.size ⟨["A", "B", "A"]⟩ < 10 ^ Text.numeralLimit :=
    Nat.lt_of_lt_of_le (show 3 < 10 ^ 1 by decide) (Nat.pow_le_pow_right (by decide) (by decide))
  exact ⟨h, declarations_and_positions_agree h (by decide) hsize {}⟩

end ThreeBlock
