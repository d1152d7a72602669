-- The numbers of the states. They are shown in the lines of a mapping, in one text and above
-- the code of a machine, and all three read back as one table. A pair of numbers from the
-- table is the edge between the states that stand there, in the arm with the first of them.
import ThreeBlock.Proofs.Hdl.Closure
import ThreeBlock.Proofs.Hdl.Flavors
namespace ThreeBlock

/-! ## Reading tables -/

/-- The two sides of a row, a numeral and a name, with one separator between. -/
def rowOf? (sep row : String) : Option (String × String) :=
  match Text.cutAtText sep.toList 0 row.toList with
  | [number, name] =>
    if Text.isNumeral number then some (String.ofList number, String.ofList name) else none
  | _ => none

/-- The table in the lines of a mapping. -/
def tableOfLines (ls : List String) : Option (List (String × String)) :=
  ls.mapM (rowOf? ": ")

/-- The table in one text. -/
def tableOfText (text : String) : Option (List (String × String)) :=
  ((Text.cutAtText ", ".toList 0 text.toList).map String.ofList).mapM (rowOf? " = ")

/-- What a line says that is a comment. -/
def commentOf? (line : String) : Option String :=
  (line.toList.dropPrefix? "// ".toList).map String.ofList

/-- The table above the code of a machine: comments between a title and an empty line. -/
def tableOfCode (code : String) : Option (List (String × String)) := do
  let ls ← ((Text.cut '\n' code.toList).map String.ofList).dropPrefix? ["// State mapping"]
  let (rows, _) ← Hdl.upTo "" ls
  tableOfLines (← rows.mapM commentOf?)

/-! ## The table of a list -/

/-- The numbers of the states as they are shown, each with the name of its state. -/
def StateList.table (states : StateList) : List (String × String) :=
  states.numbered.map fun e => (Text.natText e.1, e.2)

theorem isWord_natText (n : Nat) : IsWord (Text.natText n) :=
  (isNumeral_zeroPadded 0 n).isWord (zeroPadded_ne_empty 0 n)

theorem valueOf_natText (n : Nat) : valueOf (Text.natText n) = n := valueOf_zeroPadded 0 n

/-- A row is read back when its separator starts with a character that no word has. -/
theorem rowOf?_row {sep name : String} {c : Char} {cs : List Char} (hsep : sep.toList = c :: cs)
    (hc : isIdentifierPart c = false) (hname : IsWord name) (n : Nat) :
    rowOf? sep (Text.natText n ++ sep ++ name) = some (Text.natText n, name) := by
  have hcut : Text.cutAtText sep.toList 0 (Text.natText n ++ sep ++ name).toList =
      [(Text.natText n).toList, name.toList] := by
    rw [String.toList_append, String.toList_append, List.append_assoc, hsep,
      Text.cutAtText_append ((isWord_natText n).not_mem hc),
      Text.cutAtText_of_not_mem (hname.not_mem hc)]
  have hnumeral : Text.isNumeral (Text.natText n).toList = true :=
    (isNumeral_toList_iff _).2 ⟨(isWord_natText n).nonempty, isNumeral_zeroPadded 0 n⟩
  rw [rowOf?, hcut]
  simp only [hnumeral, if_true, String.ofList_toList]

theorem mapM_commentOf? (ls : List String) :
    (ls.map fun l => "// " ++ l).mapM commentOf? = some ls := by
  have hcomment : ∀ l ∈ ls, commentOf? ("// " ++ l) = some (id l) := by
    intro l _
    rw [commentOf?, String.toList_append, List.dropPrefix?_append_of_beq _ (beq_self_eq_true _)]
    exact congrArg some String.ofList_toList
  rw [List.mapM_map, Function.comp_def, mapM_eq_some_map hcomment, List.map_id]

section Table

variable {states : StateList} (hnamed : ∀ n ∈ states.names, isIdentifier n = true)
include hnamed

theorem isWord_of_mem_numbered {e : Nat × String} (he : e ∈ states.numbered) : IsWord e.2 :=
  isWord_of_isIdentifier (hnamed _ (StateList.mem_of_at? (StateList.mem_numbered.1 he)))

/-- Rows of one form are read back to the table. -/
theorem mapM_rowOf? {sep : String} {c : Char} {cs : List Char} (hsep : sep.toList = c :: cs)
    (hc : isIdentifierPart c = false) :
    (states.numbered.map fun e => Text.natText e.1 ++ sep ++ e.2).mapM (rowOf? sep) =
      some states.table := by
  rw [List.mapM_map]
  exact mapM_eq_some_map fun e he => rowOf?_row hsep hc (isWord_of_mem_numbered hnamed he) e.1

theorem tableOfLines_mapping : tableOfLines states.mapping = some states.table :=
  mapM_rowOf? hnamed (show ": ".toList = ':' :: [' '] from rfl) (by decide)

theorem tableOfText_describe (hne : states.names ≠ []) :
    tableOfText states.describe = some states.table := by
  have hrows : (states.numbered.map fun e => Text.natText e.1 ++ " = " ++ e.2) ≠ [] :=
    mt List.map_eq_nil_iff.1 (StateList.numbered_ne_nil hne)
  have hcomma : ∀ row ∈ (states.numbered.map fun e => Text.natText e.1 ++ " = " ++ e.2).map
      String.toList, ',' ∉ row := by
    intro row hrow
    rw [List.map_map] at hrow
    obtain ⟨e, he, rfl⟩ := List.mem_map.1 hrow
    have hnumber := (isWord_natText e.1).not_mem (d := ',') (by decide)
    have hname := (isWord_of_mem_numbered hnamed he).not_mem (d := ',') (by decide)
    simp [hnumber, hname]
  have hcut : (Text.cutAtText ", ".toList 0 states.describe.toList).map String.ofList =
      states.numbered.map fun e => Text.natText e.1 ++ " = " ++ e.2 := by
    rw [StateList.describe, String.toList_intercalate]
    change (Text.cutAtText (',' :: [' ']) 0 ((',' :: [' ']).intercalate _)).map String.ofList = _
    rw [Text.cutAtText_intercalate hcomma (by simpa using hrows), List.map_map]
    simp [Function.comp_def]
  rw [tableOfText, hcut]
  exact mapM_rowOf? hnamed (show " = ".toList = ' ' :: ['=', ' '] from rfl) (by decide)

theorem tableOfCode_text (hne : states.names ≠ []) (start : String) (ts : TransitionSet) :
    tableOfCode (Hdl.Document.startingIn start .explicit true states ts).text =
      some states.table := by
  have hwhole : Hdl.AllWhole (Hdl.stateMapLines states.mapping) :=
    Hdl.allWhole_stateMapLines (Hdl.isWhole_of_mem_mapping hnamed)
  have hlines : Hdl.stateMapLines states.mapping =
      ["// State mapping"] ++ ((states.mapping.map fun l => "// " ++ l) ++ [""]) :=
    Hdl.stateMapLines_of_ne_nil (mt List.map_eq_nil_iff.1 (StateList.numbered_ne_nil hne))
  have hblank : "" ∉ states.mapping.map fun l => "// " ++ l := by
    intro hmem
    obtain ⟨l, _, hl⟩ := List.mem_map.1 hmem
    simp at hl
  have hback : ∀ ls : List String, (ls.map String.toList).map String.ofList = ls := by
    simp
  rw [tableOfCode, Hdl.text_withMap, String.toList_append, Hdl.cut_textOfLines_append hwhole,
    List.map_append, hback, hlines, List.append_assoc, List.append_assoc,
    List.dropPrefix?_append_of_beq _ (beq_self_eq_true _), Option.bind_eq_bind, Option.bind_some,
    Hdl.upTo_append hblank, Option.bind_eq_bind, Option.bind_some]
  dsimp only
  rw [mapM_commentOf?, Option.bind_some, tableOfLines_mapping hnamed]

end Table

/-! ## From a table to its edges -/

section Edges

variable {states : StateList} {source target : Nat × String}

theorem holds_of_mem_numbered (hsource : source ∈ states.numbered)
    (htarget : target ∈ states.numbered) : states.Holds (source.1, target.1) := by
  have hin : ∀ e ∈ states.numbered, 1 ≤ e.1 ∧ e.1 ≤ states.size := by
    intro e he
    have hposition : e.1 ∈ states.numbered.map Prod.fst := List.mem_map_of_mem he
    rw [StateList.map_fst_numbered, List.mem_range'_1] at hposition
    omega
  exact ⟨hin source hsource, hin target htarget⟩

theorem edge_of_mem_numbered (hsource : source ∈ states.numbered)
    (htarget : target ∈ states.numbered) :
    states.edge (source.1, target.1) = ⟨source.2, target.2, source.1⟩ := by
  simp [StateList.edge, StateList.mem_numbered.1 hsource, StateList.mem_numbered.1 htarget]

/-- Two numbers that are shown are read to the edge between their states. -/
theorem read_of_mem_numbered (hlimit : states.size < 10 ^ Text.numeralLimit)
    (hsource : source ∈ states.numbered) (htarget : target ∈ states.numbered) :
    TransitionSet.read (Text.natText source.1 ++ "-" ++ Text.natText target.1) states =
      .ok ⟨[⟨source.2, target.2, source.1⟩]⟩ := by
  have hin : ∀ p ∈ [(source.1, target.1)], states.Holds p := by
    simpa using holds_of_mem_numbered hsource htarget
  have hread := TransitionSet.read_pairsText (List.cons_ne_nil _ _) hin hlimit
  rw [ofPositions_eq_edges hin, List.map_singleton,
    edge_of_mem_numbered hsource htarget] at hread
  exact hread

theorem isJoined_of_mem_numbered (hcount : 2 ≤ states.size)
    (hnamed : ∀ n ∈ states.names, isIdentifier n = true) (hsource : source ∈ states.numbered)
    (htarget : target ∈ states.numbered) :
    IsJoined states ⟨[⟨source.2, target.2, source.1⟩]⟩ where
  count := hcount
  named := hnamed
  entry := by simpa using StateList.mem_numbered.1 hsource
  target := by simpa using StateList.mem_of_at? (StateList.mem_numbered.1 htarget)

end Edges

/-- The lines of the mapping, the text that describes a list and the comment above explicit
code read back as one table: the numbers from 1 on, each with its state. The text of two
numbers of the table is read to the edge between their states, which the code has in the
arm with the first of the numbers and in no other. -/
theorem the_numbers_shown_are_those_used {states : StateList} (hcount : 2 ≤ states.size)
    (hlimit : states.size < 10 ^ Text.numeralLimit)
    (hnamed : ∀ n ∈ states.names, isIdentifier n = true) :
    ∃ rows : List (String × String),
      tableOfLines states.mapping = some rows ∧ tableOfText states.describe = some rows ∧
      (∀ ts, ∃ code, Hdl.render .explicit true states ts = .ok code ∧
        tableOfCode code = some rows) ∧
      (rows.map fun r => valueOf r.1) = List.range' 1 states.size ∧
      rows.map Prod.snd = states.names ∧
      ∀ p source q target, (p, source) ∈ rows → (q, target) ∈ rows →
        TransitionSet.read (p ++ "-" ++ q) states = .ok ⟨[⟨source, target, valueOf p⟩]⟩ ∧
        ∀ flavor withMap, ∃ code c,
          Hdl.render flavor withMap states ⟨[⟨source, target, valueOf p⟩]⟩ = .ok code ∧
          Hdl.Circuit.read code = some c ∧
          c.assignments = [((valueOf p : Int), flagFor source target)] ∧
          c.decisions = [((valueOf p : Int), flagFor source target, target)] := by
  have hne : states.names ≠ [] := by
    intro hnil
    rw [StateList.size, hnil] at hcount
    simp at hcount
  obtain ⟨start, hstart⟩ : ∃ start, states.reset? = some start := ⟨_, List.head?_eq_some_head hne⟩
  refine ⟨states.table, tableOfLines_mapping hnamed, tableOfText_describe hnamed hne,
    fun ts => ⟨_, Hdl.render_eq_ok hstart .explicit true ts,
      tableOfCode_text hnamed hne start ts⟩, ?_, ?_, ?_⟩
  · rw [StateList.table, List.map_map, ← StateList.map_fst_numbered]
    exact List.map_congr_left fun e _ => valueOf_natText e.1
  · rw [StateList.table, List.map_map, ← StateList.map_snd_numbered]
    rfl
  · intro p source q target hsource htarget
    obtain ⟨⟨m, _⟩, hm, heq⟩ := List.mem_map.1 hsource
    obtain ⟨⟨n, _⟩, hn, heq'⟩ := List.mem_map.1 htarget
    cases heq
    cases heq'
    rw [valueOf_natText]
    have hjoined := isJoined_of_mem_numbered hcount hnamed hm hn
    refine ⟨read_of_mem_numbered hlimit hm hn, fun flavor withMap => ⟨_, _,
      Hdl.render_eq_ok hstart flavor withMap _,
      hjoined.spelled.read_text hstart flavor withMap, ?_, ?_⟩⟩
    · exact List.perm_singleton.1 (Hdl.assignments_ofMachine hjoined start)
    · exact List.perm_singleton.1 (Hdl.decisions_ofMachine hjoined start)

/-- Two states have one name: the edge from number 3 is that of the second of them. -/
theorem a_repeated_name_is_told_by_its_number :
    tableOfText (StateList.describe ⟨["A", "B", "A"]⟩) =
        some [("1", "A"), ("2", "B"), ("3", "A")] ∧
      TransitionSet.read "3-2" ⟨["A", "B", "A"]⟩ = .ok ⟨[⟨"A", "B", 3⟩]⟩ ∧
      ∃ code c, Hdl.render .cyclic false ⟨["A", "B", "A"]⟩ ⟨[⟨"A", "B", 3⟩]⟩ = .ok code ∧
        Hdl.Circuit.read code = some c ∧ c.decisions = [(3, "a2b", "B")] := by
  have htext : tableOfText (StateList.describe ⟨["A", "B", "A"]⟩) =
      some [("1", "A"), ("2", "B"), ("3", "A")] := by decide
  have hcount : 2 ≤ StateList.size ⟨["A", "B", "A"]⟩ := by decide
  obtain ⟨rows, _, hrows, _, _, _, hedges⟩ := the_numbers_shown_are_those_used hcount
    (Text.lt_pow_numeralLimit (by decide)) (by decide)
  obtain rfl := Option.some.inj (htext.symm.trans hrows)
  obtain ⟨hread, hcode⟩ := hedges "3" "A" "2" "B" (by decide) (by decide)
  obtain ⟨code, c, hcode, hc, _, hdecisions⟩ := hcode .cyclic false
  exact ⟨htext, hread, code, c, hcode, hc, hdecisions⟩

end ThreeBlock
