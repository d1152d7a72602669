-- What becomes of a text that lists states, told by what stands in it and not by how
-- it is read: the names that it lists, and the first rule that they break.
import ThreeBlock.Proofs.Text.Padding
import ThreeBlock.Reading.States
namespace ThreeBlock

/-- Some names are the segments of a text: it lists them, and they are trimmed. -/
structure AreSegments (raw : String) (names : List String) : Prop where
  listed : Text.Lists raw names
  trimmed : ∀ n ∈ names, Text.IsTrimmed n

/-- What a text gives: the states that it lists, or the first rule that it breaks. The
count comes before the names. -/
inductive StatesVerdict (raw : String) : Except Fault StateList → Prop
  | accepted {names : List String} : 2 ≤ names.length →
      (∀ n ∈ names, isIdentifier n = true) → Text.Lists raw names →
      StatesVerdict raw (.ok ⟨names⟩)
  | tooFew {names : List String} : AreSegments raw names → names.length < 2 →
      StatesVerdict raw (.error (.insufficientStates names.length))
  | badNames {names : List String} : AreSegments raw names → 2 ≤ names.length →
      (∃ n ∈ names, isIdentifier n = false) →
      StatesVerdict raw (.error (.invalidIdentifiers
        (names.filter fun n => !isIdentifier n)))

namespace StateList

variable {raw : String} {names : List String}

theorem areSegments_segments (raw : String) : AreSegments raw (Text.segments raw) :=
  ⟨Text.lists_segments raw, fun _ hn => Text.isTrimmed_of_mem_segments hn⟩

theorem read_of_areSegments (h : AreSegments raw names) : read raw = ofNames names := by
  rw [read, Text.segments_eq_iff.2 ⟨h.trimmed, h.listed⟩]

theorem areSegments_of_identifiers (hlisted : Text.Lists raw names)
    (hnames : ∀ n ∈ names, isIdentifier n = true) : AreSegments raw names :=
  ⟨hlisted, fun n hn => (isWord_of_isIdentifier (hnames n hn)).isSegment.isTrimmed⟩

theorem read_of_verdict {x : Except Fault StateList} (h : StatesVerdict raw x) : read raw = x := by
  cases h with
  | accepted hcount hnames hlisted =>
    rw [read_of_areSegments (areSegments_of_identifiers hlisted hnames)]
    exact ofNames_eq_ok_iff.2 ⟨hcount, hnames, rfl⟩
  | @tooFew names hsegments hcount =>
    have hfew : names.length < fewestStates := hcount
    rw [read_of_areSegments hsegments, ofNames, if_pos hfew]
  | @badNames names hsegments hcount hbad =>
    have henough : ¬ names.length < fewestStates := Nat.not_lt.2 hcount
    have hinvalid : invalidNames names ≠ [] := by
      rw [ne_eq, invalidNames_eq_nil_iff]
      intro hall
      obtain ⟨n, hn, hno⟩ := hbad
      rw [hall n hn] at hno
      cases hno
    rw [read_of_areSegments hsegments, ofNames, if_neg henough, if_neg hinvalid]
    rfl

theorem exists_statesVerdict (raw : String) : ∃ x, StatesVerdict raw x := by
  have hsegments := areSegments_segments raw
  by_cases hcount : 2 ≤ (Text.segments raw).length
  · by_cases hnames : ∀ n ∈ Text.segments raw, isIdentifier n = true
    · exact ⟨_, .accepted hcount hnames hsegments.listed⟩
    · have hbad : ∃ n ∈ Text.segments raw, isIdentifier n = false := by simpa using hnames
      exact ⟨_, .badNames hsegments hcount hbad⟩
  · exact ⟨_, .tooFew hsegments (Nat.not_le.1 hcount)⟩

theorem read_eq_iff {x : Except Fault StateList} : read raw = x ↔ StatesVerdict raw x := by
  constructor
  · rintro rfl
    obtain ⟨x, hx⟩ := exists_statesVerdict raw
    rw [read_of_verdict hx]
    exact hx
  · exact read_of_verdict

end StateList

/-- A text is accepted just when it lists identifiers, two at least, with any blanks
around them; else the fault tells its segments. The segments joined again are read back,
and those of a join are those of its sides. -/
theorem a_list_of_states_is_read_as_it_stands (raw : Option String) :
    (∀ x, StateList.read (raw.getD "") = x ↔ StatesVerdict (raw.getD "") x) ∧
      (∀ text, Text.segmentsAt? ";" text = some (Text.segments text)) ∧
      (∀ text, Text.segments (String.intercalate ";" (Text.segments text)) =
        Text.segments text) ∧
      ∀ a b, Text.segments (a ++ ";" ++ b) = Text.segments a ++ Text.segments b := by
  refine ⟨fun x => StateList.read_eq_iff, Text.segmentsAt?_semicolon, fun text => ?_,
    Text.segments_append⟩
  exact Text.segments_intercalate fun n hn => Text.isTrimmed_of_mem_segments hn

end ThreeBlock
