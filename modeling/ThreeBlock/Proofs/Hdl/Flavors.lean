-- What a flavor changes in a text, and what the table of states adds to it. The flavors
-- differ in comments, so their texts have the same lines once comments, the spaces at the
-- end of a line and empty lines are gone. The table of states stands above the text of an
-- explicit machine, which goes on as it is; a ring has none.
import Mathlib.Data.List.DropRight
import ThreeBlock.Proofs.Hdl.Machine
namespace ThreeBlock.Hdl

/-! ## Lines without comments -/

/-- A line without its comment, and without the spaces at its end. -/
def plainLine (line : List Char) : List Char := (beforeComment line).rdropWhile (· = ' ')

/-- The lines of a text without comments, the empty ones left out. -/
def plainLines (code : String) : List (List Char) :=
  ((Text.cut '\n' code.toList).map plainLine).filter (· ≠ [])

/-- Lines without comments, the empty ones left out. -/
def plainOf (ls : List String) : List (List Char) :=
  (ls.map fun l => plainLine l.toList).filter (· ≠ [])

theorem plainOf_append (ls ms : List String) : plainOf (ls ++ ms) = plainOf ls ++ plainOf ms := by
  simp [plainOf]

theorem plainLines_textOfLines {ls : List String} (h : AllWhole ls) :
    plainLines (textOfLines ls) = plainOf ls := by
  have hlast : plainLine [] = [] := by decide
  simp [plainLines, cut_textOfLines h, plainOf, hlast, Function.comp_def]

theorem plainOf_cons_of_comment {comment : String} (h : plainLine comment.toList = [])
    (ls : List String) : plainOf (comment :: ls) = plainOf ls := by
  simp [plainOf, h]

theorem plainLine_comment (text : String) : plainLine ("// " ++ text).toList = [] := by
  have hnone : beforeComment ("// " ++ text).toList = [] := by
    rw [String.toList_append]
    exact beforeComment_append List.not_mem_nil _
  rw [plainLine, hnone, List.rdropWhile_nil]

/-! ## The comments of a flavor -/

theorem plainOf_declarationLines (flavor : Flavor) :
    plainOf (declarationLines flavor) =
      ["fsm_state cur_state, next_state;".toList, "fsm_transition_flags trans_flags;".toList] := by
  cases flavor <;> decide +kernel

theorem plainOf_nextStateBlock (flavor : Flavor) (arms : List Arm) (reset : String) :
    plainOf (nextStateBlock flavor arms reset) =
      plainOf (nextStateBlock flavor arms reset).tail := by
  have hcomment : plainLine (Comment.aboveNextState flavor).toList = [] := by
    cases flavor <;> decide
  exact plainOf_cons_of_comment hcomment _

theorem plainOf_registerBlock (flavor : Flavor) (reset : String) :
    plainOf (registerBlock flavor reset) = plainOf (registerBlock flavor reset).tail := by
  have hcomment : plainLine (Comment.aboveRegister flavor).toList = [] := by
    cases flavor <;> decide
  exact plainOf_cons_of_comment hcomment _

/-- Below the table of states the flavors differ in comments. -/
theorem plainOf_bodyLines_eq (start : String) (flavor flavor' : Flavor) (withMap withMap' : Bool)
    (states : StateList) (ts : TransitionSet) :
    plainOf (bodyLines (.startingIn start flavor withMap states ts)) =
      plainOf (bodyLines (.startingIn start flavor' withMap' states ts)) := by
  simp only [bodyLines, plainOf_append, Document.startingIn, plainOf_declarationLines,
    plainOf_nextStateBlock, plainOf_registerBlock]
  rfl

/-! ## The table of states -/

section Table

variable {states : StateList} {ts : TransitionSet} {start : String}

theorem plainOf_stateMapLines (entries : List String) : plainOf (stateMapLines entries) = [] := by
  cases entries with
  | nil => rfl
  | cons e es =>
    have htitle : plainLine "// State mapping".toList = [] := by decide
    have hblank : plainOf [""] = [] := by decide
    have htable : plainOf ((e :: es).map fun m => "// " ++ m) = [] := by
      rw [plainOf, List.filter_eq_nil_iff]
      intro l hl
      rw [List.map_map] at hl
      obtain ⟨m, _, rfl⟩ := List.mem_map.1 hl
      simp only [Function.comp_apply, plainLine_comment]
      decide
    rw [stateMapLines, plainOf_append, plainOf_cons_of_comment htitle, htable, hblank,
      List.nil_append]
    simp

theorem stateMapLines_of_ne_nil {entries : List String} (h : entries ≠ []) :
    stateMapLines entries =
      "// State mapping" :: (entries.map fun e => "// " ++ e) ++ [""] := by
  cases entries with
  | nil => exact absurd rfl h
  | cons e es => rfl

theorem stateMapLines_mapping (h : states.names ≠ []) :
    stateMapLines states.mapping =
      "// State mapping" ::
        (states.numbered.map fun e => "// " ++ Text.natText e.1 ++ ": " ++ e.2) ++ [""] := by
  have hne : states.mapping ≠ [] := mt List.map_eq_nil_iff.1 (StateList.numbered_ne_nil h)
  rw [stateMapLines_of_ne_nil hne, StateList.mapping, List.map_map]
  simp only [Function.comp_def, String.append_assoc]

theorem text_withMap (start : String) (states : StateList) (ts : TransitionSet) :
    (Document.startingIn start .explicit true states ts).text =
      textOfLines (stateMapLines states.mapping) ++
        (Document.startingIn start .explicit false states ts).text :=
  textOfLines_append _ (bodyLines (.startingIn start .explicit false states ts))

theorem plainLines_startingIn (h : Spelled states ts) (hstart : states.reset? = some start)
    (flavor : Flavor) (withMap : Bool) :
    plainLines (Document.startingIn start flavor withMap states ts).text =
      plainOf (bodyLines (.startingIn start flavor withMap states ts)) := by
  have htable : plainOf (Document.startingIn start flavor withMap states ts).table = [] := by
    unfold Document.table
    cases flavor with
    | cyclic => rfl
    | explicit => exact plainOf_stateMapLines _
  rw [Document.text, plainLines_textOfLines (allWhole_lines (h.document hstart flavor withMap)),
    lines_eq_table, plainOf_append, htable, List.nil_append]

end Table

/-- The table of states stands above the text of an explicit machine, and a ring has none.
When all names are identifiers, the texts of both flavors have the same lines without
comments. -/
theorem the_flavors_differ_in_comments {states : StateList} (h : states.names ≠ [])
    (ts : TransitionSet) :
    ∃ ring listed mapped,
      render .cyclic false states ts = .ok ring ∧ render .cyclic true states ts = .ok ring ∧
      render .explicit false states ts = .ok listed ∧
      render .explicit true states ts = .ok mapped ∧
      mapped = textOfLines ("// State mapping" ::
        (states.numbered.map fun e => "// " ++ Text.natText e.1 ++ ": " ++ e.2) ++ [""]) ++
          listed ∧
      (Spelled states ts →
        plainLines ring = plainLines listed ∧ plainLines mapped = plainLines listed) := by
  obtain ⟨start, hstart⟩ : ∃ start, states.reset? = some start :=
    ⟨_, List.head?_eq_some_head h⟩
  refine ⟨_, _, _, render_eq_ok hstart .cyclic false ts, render_eq_ok hstart .cyclic true ts,
    render_eq_ok hstart .explicit false ts, render_eq_ok hstart .explicit true ts, ?_, ?_⟩
  · rw [← stateMapLines_mapping h]
    exact text_withMap start states ts
  · intro hspelled
    simp only [plainLines_startingIn hspelled hstart]
    exact ⟨plainOf_bodyLines_eq .., plainOf_bodyLines_eq ..⟩

/-- A repeated name, an arm with two edges and one without: the table numbers all entries,
and below it the lines are those of the ring. -/
theorem a_repeated_state_is_mapped_twice :
    ∃ ring mapped,
      render .cyclic true ⟨["A", "B", "A"]⟩ ⟨[⟨"A", "B", 3⟩, ⟨"A", "A", 3⟩, ⟨"B", "A", 2⟩]⟩ =
        .ok ring ∧
      render .explicit true ⟨["A", "B", "A"]⟩ ⟨[⟨"A", "B", 3⟩, ⟨"A", "A", 3⟩, ⟨"B", "A", 2⟩]⟩ =
        .ok mapped ∧
      "// State mapping\n// 1: A\n// 2: B\n// 3: A\n\n".toList <+: mapped.toList ∧
      plainLines ring = plainLines mapped := by
  have hne : StateList.names ⟨["A", "B", "A"]⟩ ≠ [] := by decide
  obtain ⟨ring, listed, mapped, _, hring, _, hmapped, htable, hplain⟩ :=
    the_flavors_differ_in_comments hne ⟨[⟨"A", "B", 3⟩, ⟨"A", "A", 3⟩, ⟨"B", "A", 2⟩]⟩
  obtain ⟨hsame, hmap⟩ := hplain ⟨by decide, by decide, by decide, by decide⟩
  refine ⟨ring, mapped, hring, hmapped, ?_, hsame.trans hmap.symm⟩
  rw [htable, String.toList_append]
  exact List.prefix_append _ _

end ThreeBlock.Hdl
