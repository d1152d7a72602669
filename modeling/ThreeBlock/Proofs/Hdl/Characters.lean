-- The text of a machine is a page of simple characters. The fixed parts of its lines are
-- simple, and so are the names and numerals that stand between them.
import ThreeBlock.Proofs.Hdl.Machine
import ThreeBlock.Proofs.Text.Simple
namespace ThreeBlock.Hdl

open Text (IsSimple isSimple_append)

/-! ## Lines -/

/-- Lines of simple text. -/
def AllSimple (ls : List String) : Prop := ∀ l ∈ ls, IsSimple l

instance (ls : List String) : Decidable (AllSimple ls) :=
  inferInstanceAs (Decidable (∀ l ∈ ls, IsSimple l))

theorem AllSimple.nil : AllSimple [] := List.forall_mem_nil _

theorem AllSimple.cons {l : String} {ls : List String} (h : IsSimple l) (hls : AllSimple ls) :
    AllSimple (l :: ls) := List.forall_mem_cons.2 ⟨h, hls⟩

theorem AllSimple.append {ls ms : List String} (hl : AllSimple ls) (hm : AllSimple ms) :
    AllSimple (ls ++ ms) := List.forall_mem_append.2 ⟨hl, hm⟩

theorem allSimple_flatMap {α : Type} {f : α → List String} {xs : List α}
    (h : ∀ x ∈ xs, AllSimple (f x)) : AllSimple (xs.flatMap f) := by
  intro l hl
  obtain ⟨x, hx, hl⟩ := List.mem_flatMap.1 hl
  exact h x hx l hl

theorem isPage_textOfLines {ls : List String} (h : AllSimple ls) (hne : ls ≠ []) :
    Text.IsPage (textOfLines ls) := by
  induction ls with
  | nil => exact absurd rfl hne
  | cons l ls ih =>
    have hline : Text.IsPage (l ++ "\n") := Text.isPage_append_line (h l List.mem_cons_self)
    have hcons : textOfLines (l :: ls) = l ++ "\n" ++ textOfLines ls :=
      textOfLines_append [l] ls
    rw [hcons]
    rcases List.eq_nil_or_concat ls with rfl | ⟨_, _, hconcat⟩
    · simpa [textOfLines] using hline
    · have hrest := ih (fun m hm => h m (List.mem_cons_of_mem _ hm)) (by simp [hconcat])
      refine ⟨isSimple_append.2 ⟨hline.simple, hrest.simple⟩, ?_⟩
      rw [String.toList_append, List.getLast?_append, hrest.ended]
      rfl

/-! ## Names between fixed texts -/

theorem isSimple_framed {before after word : String}
    (hframe : IsSimple before ∧ IsSimple after) (h : isIdentifier word = true) :
    IsSimple (before ++ word ++ after) :=
  isSimple_append.2 ⟨isSimple_append.2 ⟨hframe.1, (isWord_of_isIdentifier h).isSimple⟩, hframe.2⟩

theorem allSimple_enumLines {states : List String} (h : ∀ n ∈ states, isIdentifier n = true) :
    AllSimple (enumLines states) := by
  intro l hl
  obtain ⟨n, hn, rfl | rfl⟩ := mem_enumLines hl
  · exact isSimple_framed (by decide) (h n hn)
  · exact isSimple_framed (by decide) (h n hn)

theorem allSimple_flagLines {flags : List String} (h : ∀ f ∈ flags, isIdentifier f = true) :
    AllSimple (flags.map fun f => "    logic " ++ f ++ ";") := by
  intro l hl
  obtain ⟨f, hf, rfl⟩ := List.mem_map.1 hl
  exact isSimple_framed (by decide) (h f hf)

/-! ## Arms -/

theorem allSimple_armLines {state : String} {body : List String}
    (hs : isIdentifier state = true) (hb : AllSimple body) : AllSimple (armLines state body) := by
  have hbody : AllSimple (if body = [] then [Comment.noTransitions] else body) := by
    split
    · decide
    · exact hb
  exact .cons (isSimple_framed (by decide) hs) (hbody.append (by decide))

theorem allSimple_arms {arms : List Arm} {body : Arm → List String}
    (hs : ∀ a ∈ arms, isIdentifier a.state = true) (hb : ∀ a ∈ arms, AllSimple (body a)) :
    AllSimple (arms.flatMap fun a => armLines a.state (body a)) :=
  allSimple_flatMap fun a ha => allSimple_armLines (hs a ha) (hb a ha)

section Arm

variable {states : List String} {a : Arm} (h : a.IsNamed states)
include h

theorem allSimple_conditionLines : AllSimple (a.branches.map conditionLine) := by
  intro l hl
  obtain ⟨b, hb, rfl⟩ := List.mem_map.1 hl
  exact isSimple_framed (by decide) (h.flag b hb)

theorem allSimple_branchLines {b : Branch} (hb : b ∈ a.branches) {test : String}
    (htest : IsSimple test) : AllSimple (branchLines test b) := by
  have hopening : IsSimple ("            " ++ test ++ " (trans_flags.") := by
    rw [isSimple_append, isSimple_append]
    exact ⟨⟨by decide, htest⟩, by decide⟩
  exact .cons (isSimple_framed ⟨hopening, by decide⟩ (h.flag b hb))
    (.cons (isSimple_framed (by decide) (h.target b hb)) .nil)

theorem allSimple_chainLines : AllSimple (chainLines a.branches) := by
  have hbranch : ∀ b ∈ a.branches, ∀ {test : String}, IsSimple test →
      AllSimple (branchLines test b) := fun b hb _ => allSimple_branchLines h hb
  cases hbs : a.branches with
  | nil => exact .nil
  | cons b bs =>
    rw [hbs, List.forall_mem_cons] at hbranch
    exact (hbranch.1 (by decide)).append (allSimple_flatMap fun c hc => hbranch.2 c hc (by decide))

end Arm

/-! ## The whole text -/

theorem allSimple_stateMapLines {entries : List String} (h : AllSimple entries) :
    AllSimple (stateMapLines entries) := by
  cases entries with
  | nil => exact .nil
  | cons e es =>
    have htable : AllSimple ((e :: es).map fun m => "// " ++ m) := by
      intro l hl
      obtain ⟨m, hm, rfl⟩ := List.mem_map.1 hl
      exact isSimple_append.2 ⟨by decide, h m hm⟩
    exact .cons (by decide) (htable.append (by decide))

section Document

variable {d : Document} (h : d.IsNamed)
include h

theorem Document.IsNamed.arm_state : ∀ a ∈ d.arms, isIdentifier a.state = true :=
  fun a ha => h.states _ (h.arms a ha).entry

theorem allSimple_conditionBlock : AllSimple (conditionBlock d.arms) := by
  have harms := allSimple_arms h.arm_state fun a ha => allSimple_conditionLines (h.arms a ha)
  exact (AllSimple.append (by decide) harms).append (by decide)

theorem allSimple_nextStateBlock : AllSimple (nextStateBlock d.flavor d.arms d.reset) := by
  have harms := allSimple_arms h.arm_state fun a ha => allSimple_chainLines (h.arms a ha)
  have hopen : AllSimple [Comment.aboveNextState d.flavor,
      "always_comb begin : state_transition", "    next_state = cur_state;", "",
      "    unique case (cur_state)"] := by
    cases d.flavor <;> decide
  have hother : IsSimple ("        default: next_state = " ++ d.reset ++ ";") :=
    isSimple_framed (by decide) h.reset
  exact (hopen.append harms).append (.cons hother (by decide))

theorem allSimple_registerBlock : AllSimple (registerBlock d.flavor d.reset) := by
  have hopen : AllSimple [Comment.aboveRegister d.flavor,
      "always_ff @(posedge clk or negedge rst_n) begin : state_register",
      "    if (!rst_n) begin"] := by
    cases d.flavor <;> decide
  have hload : IsSimple ("        cur_state <= " ++ d.reset ++ "; // Reset initialization") :=
    isSimple_framed (by decide) h.reset
  exact hopen.append (.cons hload (by decide))

theorem allSimple_bodyLines : AllSimple (bodyLines d) := by
  have htype : AllSimple (stateTypeLines d.states) :=
    (AllSimple.append (by decide) (allSimple_enumLines h.states)).append (by decide)
  have hflags : AllSimple (flagTypeLines d.flags) :=
    (AllSimple.append (by decide) (allSimple_flagLines h.flags)).append (by decide)
  have hdeclarations : AllSimple (declarationLines d.flavor) := by
    cases d.flavor <;> decide
  exact ((((htype.append hflags).append hdeclarations).append (allSimple_conditionBlock h)).append
    (allSimple_nextStateBlock h)).append (allSimple_registerBlock h)

/-- The text of a document is a page when its table of states is simple. -/
theorem isPage_text (hmap : AllSimple d.stateMap) : Text.IsPage d.text := by
  have htable : AllSimple d.table := by
    unfold Document.table
    cases d.flavor with
    | cyclic => exact .nil
    | explicit => exact allSimple_stateMapLines hmap
  refine isPage_textOfLines ?_ ?_
  · rw [lines_eq_table]
    exact htable.append (allSimple_bodyLines h)
  · simp [lines_eq_table, bodyLines, registerBlock]

end Document

/-! ## Machines -/

section Machines

variable {states : StateList} (hnamed : ∀ n ∈ states.names, isIdentifier n = true)
include hnamed

theorem allSimple_mapping : AllSimple states.mapping := by
  intro e he
  obtain ⟨⟨p, n⟩, hp, rfl⟩ := List.mem_map.1 he
  have hname := hnamed n (StateList.mem_of_at? (StateList.mem_numbered.1 hp))
  rw [isSimple_append, isSimple_append]
  exact ⟨⟨Text.isSimple_natText p, by decide⟩, (isWord_of_isIdentifier hname).isSimple⟩

/-- The numbered list of the states is a page. -/
theorem isPage_mapping : Text.IsPage (String.intercalate "\n" states.mapping ++ "\n") :=
  Text.isPage_append_line (Text.isSimple_intercalate (by decide) (allSimple_mapping hnamed))

end Machines

/-- The text of a machine is a page, in either flavor, with or without a table of states. -/
theorem Spelled.isPage_text {states : StateList} {ts : TransitionSet} (h : Spelled states ts)
    {start : String} (hstart : states.reset? = some start) (flavor : Flavor) (withMap : Bool) :
    Text.IsPage (Document.startingIn start flavor withMap states ts).text := by
  refine Hdl.isPage_text (h.document hstart flavor withMap) ?_
  cases withMap with
  | false => exact .nil
  | true => exact allSimple_mapping h.named

end ThreeBlock.Hdl
