-- The text of a machine tells the machine, once no two of its edges share a
-- flag. The circuit gives the states and the flags; each flag has its arm, so
-- the order of the flags gives the order of the edges. The flavor stands in
-- the comment above the register.
import ThreeBlock.Proofs.Hdl.Machine
import ThreeBlock.Proofs.Transition
import ThreeBlock.Reading.Ring
namespace ThreeBlock.Hdl

/-- A machine of identifiers in which each edge has the entry of its source, and
no two edges share a flag. -/
structure CollisionFree (d : Definition) : Prop where
  nonempty : d.states.names ≠ []
  named : ∀ n ∈ d.states.names, isIdentifier n = true
  target : ∀ t ∈ d.transitions.edges, isIdentifier t.target = true
  entry : ∀ t ∈ d.transitions.edges, d.states.at? t.entry = some t.source
  flags : d.transitions.flags.Nodup

theorem CollisionFree.spelled {d : Definition} (h : CollisionFree d) :
    Spelled d.states d.transitions where
  nonempty := h.nonempty
  named := h.named
  source t ht := h.named _ (StateList.mem_of_at? (h.entry t ht))
  target := h.target

/-! ## The order of edges -/

/-- Lists that look alike through a function are equal when it tells the members
of one apart and the other has no further members. -/
theorem eq_of_map_eq {α β : Type} {f : α → β} {xs ys : List α} (h : xs.map f = ys.map f)
    (hf : (ys.map f).Nodup) (hsub : ∀ x ∈ xs, x ∈ ys) : xs = ys := by
  induction xs generalizing ys with
  | nil => exact (List.map_eq_nil_iff.1 h.symm).symm
  | cons x xs ih =>
    cases ys with
    | nil => cases h
    | cons y ys =>
      obtain ⟨hhead, htail⟩ := List.cons.inj h
      rw [List.map_cons, List.nodup_cons] at hf
      have hxy : x = y := by
        rcases List.mem_cons.1 (hsub x List.mem_cons_self) with he | hm
        · exact he
        · exact absurd (hhead ▸ List.mem_map_of_mem hm) hf.1
      subst hxy
      rw [ih htail hf.2]
      intro z hz
      rcases List.mem_cons.1 (hsub z (List.mem_cons_of_mem _ hz)) with rfl | hm
      · exact absurd (htail ▸ List.mem_map_of_mem hz) hf.1
      · exact hm

/-! ## The edges in the arms -/

theorem testsOf_injective {bs cs : List Branch} (h : testsOf bs = testsOf cs) : bs = cs := by
  have hback : ∀ bs : List Branch, (testsOf bs).map (fun t => Branch.mk t.flag t.target) = bs := by
    intro bs
    cases bs with
    | nil => rfl
    | cons b bs => simp [testsOf, Function.comp_def]
  rw [← hback bs, h, hback cs]

theorem CollisionFree.mem_fromPosition {d : Definition} (h : CollisionFree d) {t : Transition}
    {p : Int} :
    t ∈ d.transitions.fromPosition d.states p ↔ t ∈ d.transitions.edges ∧ t.entry = p := by
  rw [TransitionSet.fromPosition, List.mem_filter, decide_eq_true_eq]
  exact and_congr_right fun ht => by rw [leaves_of_at? (h.entry t ht)]

/-- Circuits with the same arms have the same branches at every position. -/
theorem branches_eq_of_choosers_eq {states : StateList} {ts us : TransitionSet}
    {start start' : String} (h : (Circuit.ofMachine states ts start).choosers =
      (Circuit.ofMachine states us start').choosers) {p : Nat} {name : String}
    (hp : states.at? p = some name) :
    (ts.fromPosition states p).map Branch.ofTransition =
      (us.fromPosition states p).map Branch.ofTransition := by
  have harms := List.map_inj_left.1 h _ (StateList.mem_numbered.2 hp)
  exact testsOf_injective (Prod.mk.inj harms).2

/-- Edges that leave one entry with one branch are the same edge. -/
theorem eq_of_entry_eq {states : StateList} {t u : Transition}
    (ht : states.at? t.entry = some t.source) (hu : states.at? u.entry = some u.source)
    (hentry : t.entry = u.entry) (htarget : t.target = u.target) : t = u := by
  rw [hentry, hu] at ht
  cases t
  cases u
  simp only [Transition.mk.injEq]
  exact ⟨(Option.some.inj ht).symm, htarget, hentry⟩

/-- Machines with the same arms have the same edges. -/
theorem CollisionFree.mem_of_choosers_eq {d e : Definition} (hd : CollisionFree d)
    (he : CollisionFree e) {start start' : String} (hstates : d.states = e.states)
    (h : (Circuit.ofMachine d.states d.transitions start).choosers =
      (Circuit.ofMachine e.states e.transitions start').choosers)
    {t : Transition} (ht : t ∈ d.transitions.edges) : t ∈ e.transitions.edges := by
  obtain ⟨i, hi, _⟩ := StateList.at?_eq_some_iff.1 (hd.entry t ht)
  have hp : t.entry = (i + 1 : Nat) := hi
  have hat : e.states.at? (i + 1 : Nat) = some t.source := by
    rw [← hp, ← hstates]
    exact hd.entry t ht
  have hbranch := List.mem_map_of_mem (f := Branch.ofTransition) (hd.mem_fromPosition.2 ⟨ht, hp⟩)
  rw [hstates] at h hbranch
  rw [branches_eq_of_choosers_eq h hat] at hbranch
  obtain ⟨u, hu, heq⟩ := List.mem_map.1 hbranch
  obtain ⟨hmem, hentry⟩ := he.mem_fromPosition.1 hu
  have hut : u = t := eq_of_entry_eq (he.entry u hmem) (hstates ▸ hd.entry t ht)
    (hentry.trans hp.symm) (Branch.mk.inj heq).2
  rw [← hut]
  exact hmem

/-! ## The flavor -/

theorem exists_lines_eq (d : Document) :
    ∃ above, d.lines = above ++ registerBlock d.flavor d.reset := by
  have hbody : ∃ above, bodyLines d = above ++ registerBlock d.flavor d.reset := ⟨_, rfl⟩
  obtain ⟨above, habove⟩ := hbody
  rw [lines_eq_table, habove, ← List.append_assoc]
  exact ⟨_, rfl⟩

theorem aboveRegister_injective {f g : Flavor}
    (h : Comment.aboveRegister f = Comment.aboveRegister g) : f = g := by
  revert h
  cases f <;> cases g <;> decide

theorem flavor_eq_of_text_eq {c d : Document} (hc : c.IsNamed) (hd : d.IsNamed)
    (h : c.text = d.text) : c.flavor = d.flavor := by
  have hlines := lines_eq_of_text_eq (allWhole_lines hc) (allWhole_lines hd) h
  obtain ⟨above, habove⟩ := exists_lines_eq c
  obtain ⟨above', habove'⟩ := exists_lines_eq d
  rw [habove, habove'] at hlines
  have hblock := (List.append_inj' hlines rfl).2
  exact aboveRegister_injective (List.cons.inj hblock).1

/-! ## The machine -/

/-- Two machines with one text are one machine, if in neither of them two edges
share a flag. -/
theorem the_text_tells_the_machine {d e : Definition} {withMap withMap' : Bool} {code : String}
    (hd : CollisionFree d) (he : CollisionFree e) (hdc : renderDefinition withMap d = .ok code)
    (hec : renderDefinition withMap' e = .ok code) : d = e := by
  obtain ⟨start, hstart⟩ := hd.spelled.exists_reset
  obtain ⟨start', hstart'⟩ := he.spelled.exists_reset
  rw [renderDefinition, render_eq_ok hstart] at hdc
  rw [renderDefinition, render_eq_ok hstart'] at hec
  have htext := Except.ok.inj (hdc.trans hec.symm)
  have hflavor := flavor_eq_of_text_eq (hd.spelled.document hstart _ _)
    (he.spelled.document hstart' _ _) htext
  have hcircuit := congrArg Circuit.read htext
  rw [hd.spelled.read_text hstart, he.spelled.read_text hstart', Option.some.injEq] at hcircuit
  have hstates : d.states = e.states :=
    congrArg StateList.mk (congrArg Circuit.entries hcircuit)
  have hflags : d.transitions.flags = e.transitions.flags := congrArg Circuit.members hcircuit
  have hedges : d.transitions.edges = e.transitions.edges :=
    eq_of_map_eq hflags he.flags fun t ht =>
      hd.mem_of_choosers_eq he hstates (congrArg Circuit.choosers hcircuit) ht
  cases d
  cases e
  simp only [Definition.mk.injEq]
  exact ⟨hstates, congrArg TransitionSet.mk hedges, hflavor⟩

/-- A ring in which a name occurs twice, and its edges spelled out. -/
theorem the_text_tells_a_ring :
    ∃ code,
      renderDefinition true ⟨⟨["A", "B", "A"]⟩, .ring ⟨["A", "B", "A"]⟩, .cyclic⟩ = .ok code ∧
      renderDefinition false
        ⟨⟨["A", "B", "A"]⟩, ⟨[⟨"A", "B", 1⟩, ⟨"B", "A", 2⟩, ⟨"A", "A", 3⟩]⟩, .cyclic⟩ = .ok code ∧
      (⟨⟨["A", "B", "A"]⟩, .ring ⟨["A", "B", "A"]⟩, .cyclic⟩ : Definition) =
        ⟨⟨["A", "B", "A"]⟩, ⟨[⟨"A", "B", 1⟩, ⟨"B", "A", 2⟩, ⟨"A", "A", 3⟩]⟩, .cyclic⟩ := by
  have hring : CollisionFree ⟨⟨["A", "B", "A"]⟩, .ring ⟨["A", "B", "A"]⟩, .cyclic⟩ :=
    ⟨by decide, by decide, by decide, by decide, by decide⟩
  have hedges : CollisionFree
      ⟨⟨["A", "B", "A"]⟩, ⟨[⟨"A", "B", 1⟩, ⟨"B", "A", 2⟩, ⟨"A", "A", 3⟩]⟩, .cyclic⟩ :=
    ⟨by decide, by decide, by decide, by decide, by decide⟩
  exact ⟨_, rfl, rfl, @the_text_tells_the_machine _ _ true false _ hring hedges rfl rfl⟩

end ThreeBlock.Hdl
