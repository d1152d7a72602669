-- The same pairs of positions, once in the order given and once grouped into
-- declarations. The arm of an entry holds the edges of that entry in order, and no
-- grouping changes this order; so the texts are the same from the first block on, and
-- only the members of the flag record are put in another order.
import ThreeBlock.Proofs.Acceptance
import ThreeBlock.Proofs.Reading.Declared
namespace ThreeBlock

namespace Hdl

/-! ## The end of a text -/

/-- The end of a text, from the first line that is `line` on. -/
def EndsFrom (line code rest : String) : Prop :=
  ∃ above below, AllWhole above ∧ line ∉ above ∧ code = textOfLines above ++ rest ∧
    rest = textOfLines (line :: below)

/-- The line above the first block. -/
def conditionTitle : String := "// State transition condition generation"

/-- The lines above the first block. -/
def Document.opening (d : Document) : List String :=
  d.table ++ (stateTypeLines d.states ++ flagTypeLines d.flags ++ declarationLines d.flavor)

/-- The lines of the three blocks. -/
def Document.blocks (d : Document) : List String :=
  conditionBlock d.arms ++
    (nextStateBlock d.flavor d.arms d.reset ++ registerBlock d.flavor d.reset)

theorem lines_eq (d : Document) : d.lines = d.opening ++ d.blocks := by
  rw [lines_eq_table, Document.opening, Document.blocks]
  simp only [bodyLines, List.append_assoc]

/-- An entry of the table of states begins with its position. -/
theorem not_mem_stateMapLines {entries : List String}
    (h : ∀ e ∈ entries, e.toList.head?.all Text.isDigit = true) :
    conditionTitle ∉ stateMapLines entries := by
  cases entries with
  | nil => simp [stateMapLines]
  | cons e es =>
    have htable : conditionTitle ∉ (e :: es).map fun m => "// " ++ m := by
      intro hm
      obtain ⟨m, hm, heq⟩ := List.mem_map.1 hm
      have hfourth : ("// " ++ m).toList[3]? = m.toList.head? := by
        rw [String.toList_append, List.getElem?_append_right (by decide), List.head?_eq_getElem?]
        rfl
      have hdigit := h m hm
      rw [← hfourth, heq] at hdigit
      exact absurd hdigit (by decide)
    have htitle : conditionTitle ∉ ["// State mapping"] := by decide
    have hempty : conditionTitle ∉ [""] := by decide
    change conditionTitle ∉ ["// State mapping"] ++ (((e :: es).map fun m => "// " ++ m) ++ [""])
    simp only [List.mem_append, not_or]
    exact ⟨htitle, htable, hempty⟩

theorem not_mem_opening {d : Document}
    (h : ∀ e ∈ d.stateMap, e.toList.head?.all Text.isDigit = true) :
    conditionTitle ∉ d.opening := by
  have htable : conditionTitle ∉ d.table := by
    unfold Document.table
    cases d.flavor with
    | cyclic => exact List.not_mem_nil
    | explicit => exact not_mem_stateMapLines h
  -- A line of an entry or a flag begins with a space.
  have hentries : conditionTitle ∉ enumLines d.states := by
    apply not_mem_of_getElem? (i := 0) (c := ' ') _ (by decide)
    intro l hl
    obtain ⟨n, _, rfl | rfl⟩ := mem_enumLines hl <;> simp
  have hflags : conditionTitle ∉ d.flags.map fun f => "    logic " ++ f ++ ";" := by
    apply not_mem_of_getElem? (i := 0) (c := ' ') _ (by decide)
    intro l hl
    obtain ⟨f, _, rfl⟩ := List.mem_map.1 hl
    simp
  have hstates : conditionTitle ∉ stateTypeLines d.states := by
    simp only [stateTypeLines, List.mem_append, not_or]
    exact ⟨⟨by decide, hentries⟩, by decide⟩
  have hrecord : conditionTitle ∉ flagTypeLines d.flags := by
    simp only [flagTypeLines, List.mem_append, not_or]
    exact ⟨⟨by decide, hflags⟩, by decide⟩
  have hdeclarations : conditionTitle ∉ declarationLines d.flavor := by
    cases d.flavor <;> decide
  simp only [Document.opening, List.mem_append, not_or]
  exact ⟨htable, ⟨hstates, hrecord⟩, hdeclarations⟩

theorem isDigit_of_mem_mapping {states : StateList} :
    ∀ e ∈ states.mapping, e.toList.head?.all Text.isDigit = true := by
  intro e he
  obtain ⟨⟨p, n⟩, _, rfl⟩ := List.mem_map.1 he
  obtain ⟨c, cs, hnumeral⟩ := List.exists_cons_of_ne_nil (Text.numeral_ne_nil p)
  have hdigit : Text.isDigit c = true :=
    Text.isDigit_of_mem_numeral (by rw [hnumeral]; exact List.mem_cons_self)
  simp [Text.toList_natText, hnumeral, hdigit]

/-- The three blocks are the end of a text, from the line above the first block on. -/
theorem endsFrom_text {states : StateList} {ts : TransitionSet} (h : Spelled states ts)
    {start : String} (hstart : states.reset? = some start) (flavor : Flavor) (withMap : Bool) :
    EndsFrom conditionTitle (Document.startingIn start flavor withMap states ts).text
      (textOfLines (Document.startingIn start flavor withMap states ts).blocks) := by
  have hmap : ∀ e ∈ (Document.startingIn start flavor withMap states ts).stateMap,
      e.toList.head?.all Text.isDigit = true := by
    cases withMap with
    | false => exact List.forall_mem_nil _
    | true => exact isDigit_of_mem_mapping
  have hwhole := allWhole_lines (h.document hstart flavor withMap)
  rw [lines_eq] at hwhole
  refine ⟨_, _, fun l hl => hwhole l (List.mem_append_left _ hl), not_mem_opening hmap, ?_, rfl⟩
  rw [Document.text, lines_eq, textOfLines_append]

/-- Edges that give each entry the same edges in the same order give the same arms. -/
theorem armsOf_eq {states : StateList} {ts us : TransitionSet} (ht : IsJoined states ts)
    (hu : IsJoined states us) (h : ∀ p : Nat, ts.ofEntry p = us.ofEntry p) :
    armsOf states ts = armsOf states us := by
  apply List.map_congr_left
  intro e _
  rw [Arm.ofEntry, Arm.ofEntry, ht.fromPosition_eq, hu.fromPosition_eq, h]

end Hdl

/-! ## The edges of pairs -/

section Pairs

variable {states : StateList}

theorem isJoined_edges (hcount : 2 ≤ states.size)
    (hnames : ∀ n ∈ states.names, isIdentifier n = true) {ps : List (Nat × Nat)}
    (hin : ∀ p ∈ ps, states.Holds p) : IsJoined states ⟨ps.map states.edge⟩ where
  count := hcount
  named := hnames
  entry _ ht := (joins_of_mem_ofPositions (ofPositions_eq_edges hin) ht).1
  target _ ht := (joins_of_mem_ofPositions (ofPositions_eq_edges hin) ht).2

theorem ofEntry_edges (ps : List (Nat × Nat)) (k : Nat) :
    TransitionSet.ofEntry ⟨ps.map states.edge⟩ k =
      (ps.filter fun p => p.1 = k).map states.edge := by
  rw [TransitionSet.ofEntry, List.filter_map]
  congr 2
  funext p
  exact decide_eq_decide.2 Int.ofNat_inj

end Pairs

/-! ## Two ways to write the pairs -/

/-- Two machines written out whose texts are the same from the first block on, and
whose flag records have the same members in some order. -/
structure SameBlocks (g g' : Generation) : Prop where
  blocks : ∃ rest, Hdl.EndsFrom Hdl.conditionTitle g.code rest ∧
    Hdl.EndsFrom Hdl.conditionTitle g'.code rest
  members : ∃ c c', Hdl.Circuit.read g.code = some c ∧ Hdl.Circuit.read g'.code = some c' ∧
    c.members.Perm c'.members

/-- The blocks of a text hang on the edges of each entry, and not on how the edges of
different entries stand among each other. -/
theorem Request.exists_sameBlocks {r r' : Request} {states : StateList} {ts us : TransitionSet}
    (hr : r.read.value = .ok ⟨states, ts, .explicit⟩)
    (hr' : r'.read.value = .ok ⟨states, us, .explicit⟩)
    (hsame : ∀ p : Nat, ts.ofEntry p = us.ofEntry p) (hperm : ts.edges.Perm us.edges)
    (settings : Settings) (hstrict : settings.strict = false) :
    ∃ g g', r.generate settings = .ok g ∧ r'.generate settings = .ok g' ∧ SameBlocks g g' := by
  have hts := isJoined_of_read hr
  have hus := isJoined_of_read hr'
  obtain ⟨start, hstart⟩ := hts.spelled.exists_reset
  have hclean : ∀ d, (Report.startingIn start settings.strict d).errors = [] := by
    intro d
    rw [hstrict]
    rfl
  have hblocks : (Hdl.Document.startingIn start .explicit settings.stateMap states ts).blocks =
      (Hdl.Document.startingIn start .explicit settings.stateMap states us).blocks := by
    have harms := Hdl.armsOf_eq hts hus hsame
    simp only [Hdl.Document.blocks, Hdl.Document.startingIn, harms]
  have hends := Hdl.endsFrom_text hts.spelled hstart .explicit settings.stateMap
  have hends' := Hdl.endsFrom_text hus.spelled hstart .explicit settings.stateMap
  dsimp only at hends hends'
  rw [hblocks] at hends
  exact ⟨_, _, (generate_of_read hr settings).trans (value_finish_of_clean _ _ hstart (hclean _)),
    (generate_of_read hr' settings).trans (value_finish_of_clean _ _ hstart (hclean _)),
    ⟨_, hends, hends'⟩, _, _, hts.spelled.read_text hstart _ _, hus.spelled.read_text hstart _ _,
    hperm.map Transition.flag⟩

/-- Pairs that are grouped into declarations are read to their edges, sorted by the entry
that they leave. The machine has the text of the pairs as they stand, from the first
block on, and the same members of its flag record in another order. -/
theorem grouping_keeps_the_blocks {states : StateList} {qs : List PairTold}
    (hcount : 2 ≤ states.size) (hnames : ∀ n ∈ states.names, isIdentifier n = true)
    (hin : ∀ q ∈ qs, states.Holds q.pair) (hsize : states.size < 10 ^ Text.numeralLimit) :
    ∃ ts, TransitionSet.ofPositions states
        ((sortBy Prod.fst (qs.map PairTold.pair)).map fun p => (↑p.1, ↑p.2)) = .ok ts ∧
      readDeclarations (declarationText states qs) = .ok (states, ts) ∧
      (qs ≠ [] → ∀ settings : Settings, settings.strict = false →
        ∃ g g', Request.generate settings (.inline (some (declarationText states qs))) = .ok g ∧
          Request.generate settings
            (.advanced (some states.spelled) (some (pairsText (qs.map PairTold.pair)))) = .ok g' ∧
          SameBlocks g g') := by
  have hpairs : ∀ p ∈ qs.map PairTold.pair, states.Holds p := by
    intro p hp
    obtain ⟨q, hq, rfl⟩ := List.mem_map.1 hp
    exact hin q hq
  have hsorted : ∀ p ∈ sortBy Prod.fst (qs.map PairTold.pair), states.Holds p := fun p hp =>
    hpairs p (mem_sortBy.1 hp)
  have hread := readDeclarations_declarationText hcount hnames hin hsize
  refine ⟨_, ofPositions_eq_edges hsorted, hread, ?_⟩
  intro hne settings hstrict
  have hspec : TransitionSet.read (pairsText (qs.map PairTold.pair)) states =
      .ok ⟨(qs.map PairTold.pair).map states.edge⟩ := by
    rw [TransitionSet.read_pairsText (by simpa using hne) hpairs hsize, ofPositions_eq_edges hpairs]
    rfl
  have hinline : (Request.inline (some (declarationText states qs))).read.value =
      .ok ⟨states, ⟨(sortBy Prod.fst (qs.map PairTold.pair)).map states.edge⟩, .explicit⟩ :=
    Request.value_read_inline hread
  have hadvanced := Request.value_read_advanced
    (isJoined_edges hcount hnames hpairs).read_names hspec
  have hsame : ∀ k : Nat,
      TransitionSet.ofEntry ⟨(sortBy Prod.fst (qs.map PairTold.pair)).map states.edge⟩ k =
        TransitionSet.ofEntry ⟨(qs.map PairTold.pair).map states.edge⟩ k := by
    intro k
    rw [ofEntry_edges, ofEntry_edges, filter_sortBy]
  exact Request.exists_sameBlocks hinline hadvanced hsame ((sortBy_perm _ _).map _) settings hstrict

/-- Of two entries with one name, each keeps the pairs that leave it, whether they tell it
by its position or by its name. -/
theorem a_repeated_name_keeps_its_pairs :
    readDeclarations "A;A-3\nB\nA;3-B;A-1" =
        .ok (⟨["A", "B", "A"]⟩, ⟨[⟨"A", "A", 1⟩, ⟨"A", "B", 3⟩, ⟨"A", "A", 3⟩]⟩) ∧
      ∃ g g', Request.generate {} (.inline (some "A;A-3\nB\nA;3-B;A-1")) = .ok g ∧
        Request.generate {} (.advanced (some "A;B;A") (some "3-2;1-3;3-1")) = .ok g' ∧
        SameBlocks g g' := by
  have hsize : StateList.size ⟨["A", "B", "A"]⟩ < 10 ^ Text.numeralLimit :=
    Text.lt_pow_numeralLimit (by decide)
  have hin : ∀ q ∈ [PairTold.mk (3, 2) false true, ⟨(1, 3), true, false⟩, ⟨(3, 1), true, false⟩],
      StateList.Holds ⟨["A", "B", "A"]⟩ q.pair := by decide
  obtain ⟨ts, _, _, hgenerate⟩ := grouping_keeps_the_blocks (by decide) (by decide) hin hsize
  exact ⟨rfl, hgenerate (by simp) {} rfl⟩

end ThreeBlock
