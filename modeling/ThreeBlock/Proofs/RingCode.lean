-- What a ring comes to. A chain of its edges leads from the first state to every entry, and
-- one edge leaves each entry, its own, also where entries share a name. So the warnings of
-- a ring tell of repeats alone, and each arm of its text holds one edge: no line is an
-- alternative, and none stands in for an empty arm.
import ThreeBlock.Proofs.Review.Exact
import ThreeBlock.Proofs.Ring
namespace ThreeBlock

/-! ## Along the ring -/

section Ring

variable {states : StateList} {start : String}

theorem leads_ring {i : Nat} {a b : String} (ha : states.names[i]? = some a)
    (hb : states.names[i + 1]? = some b) : (TransitionSet.ring states).Leads a b := by
  obtain ⟨hnext, _⟩ := List.getElem?_eq_some_iff.1 hb
  have hlt : i < (TransitionSet.ring states).edges.length := by
    rw [length_ring, StateList.size]
    omega
  have hget := List.getElem?_eq_getElem hlt
  obtain ⟨_, hsource, htarget⟩ := getElem?_ring hget
  rw [getElem?_followers (by omega), if_pos hnext, hb] at htarget
  rw [ha] at hsource
  exact ⟨_, List.mem_of_getElem? hget, (Option.some.inj hsource).symm,
    (Option.some.inj htarget).symm⟩

/-- From the first state the edges lead to each entry in turn. -/
theorem reflTransGen_ring (hstart : states.reset? = some start) {i : Nat} {n : String}
    (hn : states.names[i]? = some n) :
    Relation.ReflTransGen (TransitionSet.ring states).Leads start n := by
  induction i generalizing n with
  | zero =>
    rw [StateList.reset?, List.head?_eq_getElem?, hn] at hstart
    cases hstart
    exact .refl
  | succ i ih =>
    obtain ⟨hlt, _⟩ := List.getElem?_eq_some_iff.1 hn
    have hbefore := List.getElem?_eq_getElem (show i < states.names.length by omega)
    exact (ih hbefore).tail (leads_ring hbefore hn)

theorem unreachable_ring (hstart : states.reset? = some start) :
    unreachable states (.ring states) start = [] := by
  rw [List.eq_nil_iff_forall_not_mem]
  intro n hn
  obtain ⟨hmem, hlost⟩ := mem_unreachable.1 hn
  obtain ⟨i, hi⟩ := List.mem_iff_getElem?.1 hmem
  exact hlost (reflTransGen_ring hstart hi)

/-- The warnings about a ring are those about its repeats. -/
theorem warnings_ring (hstart : states.reset? = some start) (strict : Bool) :
    (Report.startingIn start strict ⟨states, .ring states, .cyclic⟩).warnings =
      if strict then [] else
        Report.onRepeats ⟨states, .ring states, .cyclic⟩
          (Report.repeatedStates (repeated states.names))
          (Report.repeatedFlags (repeated (TransitionSet.ring states).flags)) := by
  simp [Report.startingIn, Report.withDeadEnds, unreachable_ring hstart,
    Report.repeatWarnings_eq_onRepeats]

/-! ## One edge for each entry -/

theorem pairwise_entry_ring (states : StateList) :
    (TransitionSet.ring states).edges.Pairwise fun t u => t.entry < u.entry := by
  rw [List.pairwise_iff_getElem]
  intro i j hi hj hij
  have hentry := (getElem?_ring (List.getElem?_eq_getElem hi)).1
  have hentry' := (getElem?_ring (List.getElem?_eq_getElem hj)).1
  omega

theorem ofEntry_ring {t : Transition} (ht : t ∈ (TransitionSet.ring states).edges) :
    (TransitionSet.ring states).ofEntry t.entry = [t] := by
  obtain ⟨before, after, hedges⟩ := List.append_of_mem ht
  have hordered := pairwise_entry_ring states
  rw [hedges, List.pairwise_append, List.pairwise_cons] at hordered
  obtain ⟨_, ⟨hafter, _⟩, hbefore⟩ := hordered
  have hnone : ∀ us : List Transition, (∀ u ∈ us, u.entry ≠ t.entry) →
      us.filter (fun u => u.entry = t.entry) = [] := by
    intro us hus
    simpa using hus
  rw [TransitionSet.ofEntry, hedges, List.filter_append, List.filter_cons_of_pos (by simp),
    hnone before fun u hu => ne_of_lt (hbefore u hu t List.mem_cons_self),
    hnone after fun u hu => ne_of_gt (hafter u hu), List.nil_append]

theorem fromPosition_ring {t : Transition} (ht : t ∈ (TransitionSet.ring states).edges) :
    (TransitionSet.ring states).fromPosition states t.entry = [t] := by
  rw [← ofEntry_ring ht]
  apply List.filter_congr
  intro u hu
  rw [leaves_of_at? (joins_of_mem_ring hu).1]

/-- What is made of each entry and its edges, is made of one edge. -/
theorem map_numbered_ring {α : Type} (f : String → List Transition → α) :
    (states.numbered.map fun e => f e.2 ((TransitionSet.ring states).fromPosition states e.1)) =
      (TransitionSet.ring states).edges.map fun t => f t.source [t] := by
  apply List.ext_getElem?
  intro i
  rw [List.getElem?_map, List.getElem?_map, StateList.numbered, StateList.numberFrom_getElem?]
  cases hget : (TransitionSet.ring states).edges[i]? with
  | none =>
    have hlen : states.names.length ≤ i := by
      rw [List.getElem?_eq_none_iff, length_ring] at hget
      exact hget
    simp [List.getElem?_eq_none hlen]
  | some t =>
    obtain ⟨hentry, hsource, _⟩ := getElem?_ring hget
    have hone := fromPosition_ring (List.mem_of_getElem? hget)
    have hposition : ((1 + i : Nat) : Int) = t.entry := by omega
    simp [hsource, hposition, hone]

end Ring

namespace Hdl

/-- The arms of a ring, one for each edge. -/
theorem armsOf_ring (states : StateList) :
    armsOf states (.ring states) =
      (TransitionSet.ring states).edges.map fun t => ⟨t.source, [⟨t.flag, t.target⟩]⟩ :=
  map_numbered_ring fun n es => Arm.mk n (es.map Branch.ofTransition)

theorem setters_ring (states : StateList) (start : String) :
    (Circuit.ofMachine states (.ring states) start).setters =
      (TransitionSet.ring states).edges.map fun t => (t.source, [t.flag]) :=
  map_numbered_ring fun n es => (n, es.map Transition.flag)

theorem choosers_ring (states : StateList) (start : String) :
    (Circuit.ofMachine states (.ring states) start).choosers =
      (TransitionSet.ring states).edges.map fun t => (t.source, [⟨false, t.flag, t.target⟩]) :=
  map_numbered_ring fun n es => (n, testsOf (es.map Branch.ofTransition))

/-! ## Phrases in a text -/

section Phrases

variable {α : Type} {p xs ys l m : List α} {c d : α}

/-- A phrase across a join of two texts has each of its characters in one of them. -/
theorem infix_append_split (h : xs ++ c :: ys <:+: l ++ m) :
    xs ++ [c] <:+: l ∨ c :: ys <:+: m := by
  obtain ⟨before, after, heq⟩ := h
  have hat : (before ++ xs) ++ c :: (ys ++ after) = l ++ m := by
    simpa using heq
  rcases List.append_eq_append_iff.1 hat with ⟨rest, hl, hm⟩ | ⟨rest, _, hm⟩
  · rcases List.append_eq_cons_iff.1 hm.symm with ⟨_, hm⟩ | ⟨rest, rfl, _⟩
    · exact Or.inr ⟨[], after, by simp [hm]⟩
    · exact Or.inl ⟨before, rest, by simp [hl]⟩
  · exact Or.inr ⟨rest, after, by simp [hm]⟩

/-- A phrase without a character stands on one side of it. -/
theorem infix_append_cons (hd : d ∉ p) (h : p <:+: l ++ d :: m) : p <:+: l ∨ p <:+: m := by
  have hnone : ∀ {q : List α}, d ∉ q → q <+: d :: m → q = [] := by
    intro q hq hqm
    rcases List.prefix_cons_iff.1 hqm with hnil | ⟨_, rfl, _⟩
    · exact hnil
    · exact absurd List.mem_cons_self hq
  rcases List.infix_append_iff.1 h with hl | hm | ⟨q, r, rfl, hq, hr⟩
  · exact Or.inl hl
  · rcases List.infix_cons_iff.1 hm with hm | hm
    · rw [hnone hd hm]
      exact Or.inl List.nil_infix
    · exact Or.inr hm
  · rw [hnone (fun hmem => hd (List.mem_append_right _ hmem)) hr, List.append_nil]
    exact Or.inl hq.isInfix

end Phrases

/-- Two words with a blank between them. -/
def phrase (words : String × String) : List Char := words.1.toList ++ ' ' :: words.2.toList

theorem not_infix_textOfLines {p : List Char} (hp : p ≠ []) (hfeed : '\n' ∉ p) {ls : List String}
    (h : ∀ l ∈ ls, ¬ p <:+: l.toList) : ¬ p <:+: (textOfLines ls).toList := by
  induction ls with
  | nil => simpa [textOfLines] using hp
  | cons l ls ih =>
    rw [List.forall_mem_cons] at h
    rw [toList_textOfLines_cons]
    intro hinfix
    rcases infix_append_cons hfeed hinfix with hl | hls
    · exact h.1 hl
    · exact ih h.2 hls

/-! ## Lines with one edge in mind -/

/-- The phrases for a second edge of an arm, and for an arm that has none. -/
def notOneEdge : List (String × String) := [("else", "if"), ("No", "transitions")]

/-- A line that tells neither of a second edge nor of none. -/
def TellsOneEdge (l : String) : Prop := ∀ p ∈ notOneEdge, ¬ phrase p <:+: l.toList

instance : DecidablePred TellsOneEdge :=
  fun l => inferInstanceAs (Decidable (∀ p ∈ notOneEdge, ¬ phrase p <:+: l.toList))

/-- Two texts that make no phrase around a word: the one in front holds the first word of
none with its blank, and the one behind the second word of none. -/
def FramesOneEdge (before after : String) : Prop :=
  ∀ p ∈ notOneEdge, ¬ p.1.toList ++ [' '] <:+: before.toList ∧
    ¬ ' ' :: p.2.toList <:+: after.toList

instance (before after : String) : Decidable (FramesOneEdge before after) :=
  inferInstanceAs (Decidable (∀ p ∈ notOneEdge, _))

/-- The blank of a phrase stands in front of the word of a line, or behind it. -/
theorem FramesOneEdge.tellsOneEdge {before after word : String} (h : FramesOneEdge before after)
    (hw : isIdentifier word = true) : TellsOneEdge (before ++ word ++ after) := by
  intro p hp
  rw [String.append_assoc, String.toList_append, String.toList_append]
  intro hinfix
  rcases infix_append_split hinfix with hfront | hback
  · exact (h p hp).1 hfront
  · have hfirst : [] ++ ' ' :: p.2.toList <:+: word.toList ++ after.toList := hback
    rcases infix_append_split hfirst with hblank | hback
    · exact (isWord_of_isIdentifier hw).not_mem (d := ' ') (by decide) (hblank.subset (by simp))
    · exact (h p hp).2 hback

theorem tellsOneEdge_armLines {state : String} {body : List String}
    (hstate : isIdentifier state = true) (hne : body ≠ []) (hbody : ∀ l ∈ body, TellsOneEdge l) :
    ∀ l ∈ armLines state body, TellsOneEdge l := by
  have hopen : FramesOneEdge "        " ": begin" := by decide +kernel
  rw [armLines, if_neg hne, List.cons_append, List.forall_mem_cons, List.forall_mem_append]
  exact ⟨hopen.tellsOneEdge hstate, hbody, by decide +kernel⟩

/-! ## The lines of a ring -/

section Lines

variable {states : StateList}

theorem tellsOneEdge_declarations (h : Spelled states (.ring states)) :
    ∀ l ∈ stateTypeLines states.names ++ flagTypeLines (TransitionSet.ring states).flags ++
      declarationLines .cyclic, TellsOneEdge l := by
  have hlast : FramesOneEdge "    " "" := by decide +kernel
  have hentry : FramesOneEdge "    " "," := by decide +kernel
  have hflag : FramesOneEdge "    logic " ";" := by decide +kernel
  have hentries : ∀ l ∈ enumLines states.names, TellsOneEdge l := by
    intro l hl
    obtain ⟨n, hn, rfl | rfl⟩ := mem_enumLines hl
    · exact hlast.tellsOneEdge (h.named n hn)
    · exact hentry.tellsOneEdge (h.named n hn)
  have hflags : ∀ l ∈ (TransitionSet.ring states).flags.map fun f => "    logic " ++ f ++ ";",
      TellsOneEdge l := by
    intro l hl
    obtain ⟨f, hf, rfl⟩ := List.mem_map.1 hl
    obtain ⟨t, ht, rfl⟩ := List.mem_map.1 hf
    exact hflag.tellsOneEdge (h.flag ht)
  simp only [stateTypeLines, flagTypeLines, List.forall_mem_append]
  refine ⟨⟨⟨⟨?_, hentries⟩, ?_⟩, ⟨?_, hflags⟩, ?_⟩, ?_⟩ <;> decide +kernel

/-- The arms of a ring tell of one edge each when their bodies do. -/
theorem tellsOneEdge_arms (h : Spelled states (.ring states)) (body : Arm → List String)
    (hbody : ∀ t ∈ (TransitionSet.ring states).edges,
      body ⟨t.source, [⟨t.flag, t.target⟩]⟩ ≠ [] ∧
        ∀ l ∈ body ⟨t.source, [⟨t.flag, t.target⟩]⟩, TellsOneEdge l) :
    ∀ l ∈ (armsOf states (.ring states)).flatMap fun a => armLines a.state (body a),
      TellsOneEdge l := by
  intro l hl
  obtain ⟨a, ha, hl⟩ := List.mem_flatMap.1 hl
  rw [armsOf_ring] at ha
  obtain ⟨t, ht, rfl⟩ := List.mem_map.1 ha
  exact tellsOneEdge_armLines (h.source t ht) (hbody t ht).1 (hbody t ht).2 l hl

theorem tellsOneEdge_conditionBlock (h : Spelled states (.ring states)) :
    ∀ l ∈ conditionBlock (armsOf states (.ring states)), TellsOneEdge l := by
  have hset : FramesOneEdge "            trans_flags." " = ...;" := by decide +kernel
  have harms := tellsOneEdge_arms h (fun a => a.branches.map conditionLine)
    fun t ht => ⟨by simp, List.forall_mem_singleton.2 (hset.tellsOneEdge (h.flag ht))⟩
  simp only [conditionBlock, List.forall_mem_append]
  refine ⟨⟨?_, harms⟩, ?_⟩ <;> decide +kernel

theorem tellsOneEdge_nextStateBlock (h : Spelled states (.ring states)) {start : String}
    (hstart : isIdentifier start = true) :
    ∀ l ∈ nextStateBlock .cyclic (armsOf states (.ring states)) start, TellsOneEdge l := by
  have htest : FramesOneEdge (Test.opening false) ")" := by decide +kernel
  have hnext : FramesOneEdge "                next_state = " ";" := by decide +kernel
  have hother : FramesOneEdge "        default: next_state = " ";" := by decide +kernel
  have harms := tellsOneEdge_arms h (fun a => chainLines a.branches) fun t ht =>
    ⟨List.cons_ne_nil _ _, List.forall_mem_cons.2 ⟨htest.tellsOneEdge (h.flag ht),
      List.forall_mem_singleton.2 (hnext.tellsOneEdge (h.target t ht))⟩⟩
  rw [nextStateBlock, List.forall_mem_append, List.forall_mem_append]
  exact ⟨⟨by decide +kernel, harms⟩,
    List.forall_mem_cons.2 ⟨hother.tellsOneEdge hstart, by decide +kernel⟩⟩

theorem tellsOneEdge_registerBlock {start : String} (hstart : isIdentifier start = true) :
    ∀ l ∈ registerBlock .cyclic start, TellsOneEdge l := by
  have hload : FramesOneEdge "        cur_state <= " "; // Reset initialization" := by
    decide +kernel
  have hopen : ∀ l ∈ [Comment.aboveRegister .cyclic,
      "always_ff @(posedge clk or negedge rst_n) begin : state_register",
      "    if (!rst_n) begin"], TellsOneEdge l := by decide +kernel
  have hclose : ∀ l ∈ ["    end else begin", "        cur_state <= next_state; // State update",
      "    end", "end"], TellsOneEdge l := by decide +kernel
  exact List.forall_mem_append.2
    ⟨hopen, List.forall_mem_cons.2 ⟨hload.tellsOneEdge hstart, hclose⟩⟩

/-- The text of a ring has no phrase for a second edge of an arm, or for an arm without. -/
theorem not_phrase_text_ring (h : Spelled states (.ring states)) {start : String}
    (hstart : states.reset? = some start) (withMap : Bool) {p : String × String}
    (hp : p ∈ notOneEdge) :
    ¬ phrase p <:+:
      (Document.startingIn start .cyclic withMap states (.ring states)).text.toList := by
  have hname := h.named start (List.mem_of_mem_head? hstart)
  have hlines : ∀ l ∈ bodyLines (.startingIn start .cyclic withMap states (.ring states)),
      TellsOneEdge l := by
    rw [bodyLines, List.forall_mem_append, List.forall_mem_append, List.forall_mem_append]
    exact ⟨⟨⟨tellsOneEdge_declarations h, tellsOneEdge_conditionBlock h⟩,
      tellsOneEdge_nextStateBlock h hname⟩, tellsOneEdge_registerBlock hname⟩
  have hfeed : ∀ p ∈ notOneEdge, '\n' ∉ phrase p := by decide +kernel
  exact not_infix_textOfLines (by simp [phrase]) (hfeed p hp) fun l hl => hlines l hl p hp

end Lines

end Hdl

/-! ## The ring as a request -/

/-- A ring over states that were read is written unless strict mode refuses its repeats. Its
warnings are those about repeats, of which strict mode leaves none. Each arm of both blocks
holds one edge, and the text has no alternative and no comment for an empty arm. -/
theorem a_ring_has_one_edge_for_each_arm {raw : Option String} {states : StateList}
    (h : StateList.read (raw.getD "") = .ok states) (settings : Settings) :
    (settings.strict = false → ∃ g, Request.generate settings (.fast raw) = .ok g) ∧
    ∀ g, Request.generate settings (.fast raw) = .ok g →
      (∃ names flags, AreRepeats states.names names ∧
        AreRepeats (TransitionSet.ring states).flags flags ∧
        g.warnings = if settings.strict then [] else
          Report.onRepeats ⟨states, .ring states, .cyclic⟩ (Report.repeatedStates names)
            (Report.repeatedFlags flags)) ∧
      (∃ c, Hdl.Circuit.read g.code = some c ∧
        c.setters = (TransitionSet.ring states).edges.map (fun t => (t.source, [t.flag])) ∧
        c.choosers = (TransitionSet.ring states).edges.map
          fun t => (t.source, [⟨false, t.flag, t.target⟩])) ∧
      ¬ "else if".toList <:+: g.code.toList ∧ ¬ "No transitions".toList <:+: g.code.toList := by
  have hread : (Request.fast raw).read.value = .ok ⟨states, .ring states, .cyclic⟩ := by
    rw [Request.value_fast, h]
    rfl
  have hspelled := (isJoined_of_states h fun t ht => joins_of_mem_ring ht).spelled
  constructor
  · intro hpermissive
    obtain ⟨start, hstart⟩ := hspelled.exists_reset
    rw [Request.generate_of_read hread]
    exact ⟨_, Request.value_finish_of_clean _ _ hstart (by simp [Report.startingIn, hpermissive])⟩
  · intro g hg
    obtain ⟨hdefinition, start, haccepted⟩ := read_of_generate hg
    obtain ⟨definition, code, warnings⟩ := g
    obtain rfl := Except.ok.inj (hread.symm.trans hdefinition)
    have hstart : states.reset? = some start := haccepted.reset
    refine ⟨⟨_, _, areRepeats_repeated _, areRepeats_repeated _,
      haccepted.warnings.trans (warnings_ring hstart _)⟩,
      ⟨_, haccepted.read_code, Hdl.setters_ring states start, Hdl.choosers_ring states start⟩, ?_⟩
    rw [haccepted.code]
    exact ⟨Hdl.not_phrase_text_ring hspelled hstart _ (p := ("else", "if")) (by decide),
      Hdl.not_phrase_text_ring hspelled hstart _ (p := ("No", "transitions")) (by decide)⟩

/-- Each of two names stands twice on the ring, and its entries have an arm each. -/
theorem repeated_entries_have_arms_of_their_own :
    ∃ g, Request.generate {} (.fast (some "A;B;A;B")) = .ok g ∧
      (∃ names flags, AreRepeats ["A", "B", "A", "B"] names ∧
        AreRepeats ["a2b", "b2a", "a2b", "b2a"] flags ∧
        g.warnings = [Report.repeatedStates names, Report.repeatedFlags flags]) ∧
      (∃ c, Hdl.Circuit.read g.code = some c ∧
        c.setters = [("A", ["a2b"]), ("B", ["b2a"]), ("A", ["a2b"]), ("B", ["b2a"])]) ∧
      ¬ "else if".toList <:+: g.code.toList := by
  have hread : StateList.read ((some "A;B;A;B").getD "") = .ok ⟨["A", "B", "A", "B"]⟩ := rfl
  obtain ⟨hmet, hring⟩ := a_ring_has_one_edge_for_each_arm hread {}
  obtain ⟨g, hg⟩ := hmet rfl
  obtain ⟨⟨names, flags, hnames, hflags, hwarnings⟩, ⟨c, hcode, hsetters, _⟩, hchain, _⟩ :=
    hring g hg
  exact ⟨g, hg, ⟨names, flags, hnames, hflags, hwarnings⟩, ⟨c, hcode, hsetters⟩, hchain⟩

end ThreeBlock
