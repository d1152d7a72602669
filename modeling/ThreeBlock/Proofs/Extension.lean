-- More pairs and more states. Pairs that are added to a text of pairs give their edges
-- behind those that were there, and states that are added to a list leave the edges of
-- its pairs as they are. So the text of a machine changes at the ends of its chains: the
-- tests that an entry had stay in front of those that it gets.
import ThreeBlock.Proofs.Hdl.Closure
import ThreeBlock.Proofs.Reading.Written
namespace ThreeBlock

/-! ## Rows of tokens -/

section Rows

variable {α : Type} {rs rs' : List (Except Stop α)} {xs : List α}

/-- A row without an abort is read behind any other. -/
theorem collectStops_append (h : ∀ e, .error (.abort e) ∉ rs') :
    collectStops (rs ++ rs') =
      (collectStops rs).bind fun xs => (collectStops rs').map (xs ++ ·) := by
  rcases forall_or_first (fun r => ∀ e, r ≠ .error (.abort e)) rs with
    hquiet | ⟨before, r, after, rfl, hbefore, hr⟩
  · have hrs : ∀ e, .error (.abort e) ∉ rs := fun e he => hquiet _ he e rfl
    have hall : ∀ e, .error (.abort e) ∉ rs ++ rs' := by simp [hrs, h]
    rw [collectStops_eq_mapM hrs, collectStops_eq_mapM h, collectStops_eq_mapM hall,
      List.mapM_append]
    cases rs.mapM id <;> cases rs'.mapM id <;> rfl
  · -- The first abort of the first row ends both readings.
    obtain ⟨e, rfl⟩ : ∃ e, r = .error (.abort e) := by simpa using hr
    have hfirst : ∀ e, .error (.abort e) ∉ before := fun e he => hbefore _ he e rfl
    rw [List.append_assoc, List.cons_append, collectStops_of_first_abort hfirst,
      collectStops_of_first_abort hfirst]
    rfl

/-- A row without a fault has no abort either. -/
theorem collectStops_map_eq_ok_iff {β : Type} {f : β → Except Stop α} {ts : List β} :
    collectStops (ts.map f) = .ok xs ↔ ts.mapM f = .ok xs := by
  have hrow : (ts.map f).mapM id = ts.mapM f := List.mapM_map
  constructor
  · intro h
    unfold collectStops at h
    split at h
    · cases h
    · exact hrow.symm.trans h
  · intro h
    have hquiet : ∀ e, .error (.abort e) ∉ ts.map f := by
      intro e he
      obtain ⟨t, ht, heq⟩ := List.mem_map.1 he
      obtain ⟨x, _, hx⟩ := exists_of_forall₂ (mapM_eq_ok_iff.1 h).flip t ht
      rw [hx] at heq
      cases heq
    rw [collectStops_eq_mapM hquiet, hrow, h]

end Rows

/-! ## More pairs -/

section Pairs

variable {states : StateList} {raw a b token : String}

theorem pairTokens_append (a b : String) :
    pairTokens (a ++ ";" ++ b) = pairTokens a ++ pairTokens b := by
  rw [← segments_eq, ← segments_eq, ← segments_eq, Text.segments_append]

/-- A token is read when it is two numerals for positions of the list. -/
theorem readPair_eq_ok_iff {count : Nat} {p : Nat × Nat} :
    readPair count token = .ok p ↔
      ∃ a b, numeralPair token.toList = some (a, b) ∧ readNumeral a = .ok p.1 ∧
        readNumeral b = .ok p.2 ∧ (1 ≤ p.1 ∧ p.1 ≤ count) ∧ 1 ≤ p.2 ∧ p.2 ≤ count := by
  rw [← inRange_iff, ← inRange_iff]
  constructor
  · intro h
    unfold readPair at h
    split at h
    · cases h
    · next a b hpair =>
      split at h
      · cases h
      · next hsource =>
        split at h
        · cases h
        · next htarget =>
          split at h
          · next hin =>
            cases h
            rw [Bool.and_eq_true] at hin
            exact ⟨a, b, hpair, hsource, htarget, hin⟩
          · cases h
  · rintro ⟨a, b, hpair, hsource, htarget, hin⟩
    simp only [readPair, hpair, hsource, htarget, hin.1, hin.2, Bool.and_self, if_true]

theorem holds_of_mem {tokens : List String} {ps : List (Nat × Nat)}
    (h : collectStops (tokens.map (readPair states.size)) = .ok ps) :
    ∀ p ∈ ps, states.Holds p := by
  intro p hp
  obtain ⟨token, _, hread⟩ := exists_of_mapM_eq_ok (collectStops_map_eq_ok_iff.1 h) p hp
  obtain ⟨_, _, _, _, _, hin⟩ := readPair_eq_ok_iff.1 hread
  exact hin

/-- What a text with tokens gives: the edges between the positions that they name. -/
theorem TransitionSet.read_eq_edges (hne : pairTokens raw ≠ []) :
    TransitionSet.read raw states =
      (collectStops ((pairTokens raw).map (readPair states.size))).map
        fun ps => ⟨ps.map states.edge⟩ := by
  rw [read_of_tokens states hne]
  cases hrow : collectStops ((pairTokens raw).map (readPair states.size)) with
  | error e => rfl
  | ok ps =>
    exact congrArg (Except.mapError Stop.abort) (ofPositions_eq_edges (holds_of_mem hrow))

theorem TransitionSet.read_congr (h : pairTokens a = pairTokens b) (states : StateList) :
    TransitionSet.read a states = TransitionSet.read b states := by
  unfold TransitionSet.read
  rw [segments_eq, segments_eq, h]

/-- Pairs behind others give their edges behind those of the others. -/
theorem TransitionSet.read_append (ha : pairTokens a ≠ []) (hb : pairTokens b ≠ [])
    (hshort : ∀ token ∈ pairTokens b, HasShortSides token) (states : StateList) :
    TransitionSet.read (a ++ ";" ++ b) states =
      (TransitionSet.read a states).bind fun ts =>
        (TransitionSet.read b states).map fun us => ⟨ts.edges ++ us.edges⟩ := by
  have hquiet : ∀ e, .error (.abort e) ∉ (pairTokens b).map (readPair states.size) := by
    intro e he
    obtain ⟨token, htoken, hread⟩ := List.mem_map.1 he
    exact readPair_ne_abort _ (hshort token htoken) e hread
  rw [read_eq_edges (by simp [pairTokens_append, ha]), read_eq_edges ha, read_eq_edges hb,
    pairTokens_append, List.map_append, collectStops_append hquiet]
  cases collectStops ((pairTokens a).map (readPair states.size)) with
  | error e => rfl
  | ok ps =>
    cases collectStops ((pairTokens b).map (readPair states.size)) with
    | error e => rfl
    | ok qs => exact congrArg (Except.ok ∘ TransitionSet.mk) List.map_append

theorem TransitionSet.pairTokens_ne_nil {ts : TransitionSet}
    (h : TransitionSet.read raw states = .ok ts) : pairTokens raw ≠ [] := by
  intro hnone
  rw [read_of_verdict (by simp [hnone]) (.empty hnone)] at h
  cases h

/-- Pairs that are accepted behind others leave the edges of the others in front. -/
theorem TransitionSet.isPrefix_of_read_append {ts ts' : TransitionSet}
    (ha : TransitionSet.read a states = .ok ts)
    (hab : TransitionSet.read (a ++ ";" ++ b) states = .ok ts') : ts.edges <+: ts'.edges := by
  have hne := pairTokens_ne_nil ha
  rw [read_eq_edges hne, map_eq_ok_iff] at ha
  rw [read_eq_edges (by simp [pairTokens_append, hne]), map_eq_ok_iff] at hab
  obtain ⟨ps, hps, rfl⟩ := ha
  obtain ⟨qs, hqs, rfl⟩ := hab
  rw [collectStops_map_eq_ok_iff] at hps hqs
  rw [pairTokens_append, List.mapM_append] at hqs
  obtain ⟨ps', hps', hqs⟩ := bind_eq_ok_iff.1 hqs
  obtain ⟨rs, _, hrs⟩ := bind_eq_ok_iff.1 hqs
  obtain rfl : ps = ps' := Except.ok.inj (hps.symm.trans hps')
  obtain rfl : ps ++ rs = qs := Except.ok.inj hrs
  exact (List.prefix_append ps rs).map _

end Pairs

/-! ## More states -/

section States

variable {states states' : StateList} {raw token : String}

theorem getElem?_of_isPrefix {α : Type} {xs ys : List α} (h : xs <+: ys) {i : Nat} {x : α}
    (hx : xs[i]? = some x) : ys[i]? = some x := by
  obtain ⟨hlt, rfl⟩ := List.getElem?_eq_some_iff.1 hx
  exact List.prefix_iff_getElem?.1 h i hlt

theorem at?_of_isPrefix (h : states.names <+: states'.names) {p : Int} {n : String}
    (hn : states.at? p = some n) : states'.at? p = some n := by
  obtain ⟨i, hi, hget⟩ := StateList.at?_eq_some_iff.1 hn
  exact StateList.at?_eq_some_iff.2 ⟨i, hi, getElem?_of_isPrefix h hget⟩

theorem edge_of_isPrefix (h : states.names <+: states'.names) {p : Nat × Nat}
    (hp : states.Holds p) : states'.edge p = states.edge p := by
  obtain ⟨source, hsource, _⟩ := exists_at? hp.1
  obtain ⟨target, htarget, _⟩ := exists_at? hp.2
  rw [StateList.edge, StateList.edge, at?_of_isPrefix h hsource, at?_of_isPrefix h htarget,
    hsource, htarget]

theorem readPair_of_le {count count' : Nat} (h : count ≤ count') {p : Nat × Nat}
    (hread : readPair count token = .ok p) : readPair count' token = .ok p := by
  obtain ⟨a, b, hpair, hsource, htarget, hin, hin'⟩ := readPair_eq_ok_iff.1 hread
  exact readPair_eq_ok_iff.2 ⟨a, b, hpair, hsource, htarget, ⟨hin.1, hin.2.trans h⟩,
    hin'.1, hin'.2.trans h⟩

/-- A text of pairs that is accepted has the same edges over a longer list of states. -/
theorem TransitionSet.read_of_isPrefix (h : states.names <+: states'.names) {ts : TransitionSet}
    (hread : TransitionSet.read raw states = .ok ts) : TransitionSet.read raw states' = .ok ts := by
  have hne := pairTokens_ne_nil hread
  rw [read_eq_edges hne, map_eq_ok_iff] at hread
  obtain ⟨ps, hrow, rfl⟩ := hread
  have hrow' : collectStops ((pairTokens raw).map (readPair states'.size)) = .ok ps := by
    rw [collectStops_map_eq_ok_iff, mapM_eq_ok_iff] at hrow ⊢
    exact hrow.imp fun _ _ => readPair_of_le h.length_le
  have hedges : ps.map states'.edge = ps.map states.edge :=
    List.map_congr_left fun p hp => edge_of_isPrefix h (holds_of_mem hrow p hp)
  rw [read_eq_edges hne, hrow', ← hedges]
  rfl

end States

/-! ## Chains -/

namespace Hdl

/-- The chains of one circuit go on in another: each arm of the one is an arm of the other at
the same place, and its tests stand there in front of any further tests of its chain. -/
def Circuit.GoesOnIn (c c' : Circuit) : Prop :=
  ∀ (i : Nat) arm, c.choosers[i]? = some arm → ∃ chain more : List Branch,
    arm.2 = testsOf chain ∧ c'.choosers[i]? = some (arm.1, testsOf (chain ++ more))

variable {states states' : StateList} {ts ts' : TransitionSet}

theorem getElem?_choosers (states : StateList) (ts : TransitionSet) (start : String) (i : Nat) :
    (Circuit.ofMachine states ts start).choosers[i]? = states.names[i]?.map fun n =>
      (n, testsOf ((ts.fromPosition states (1 + i : Nat)).map Branch.ofTransition)) := by
  rw [Circuit.ofMachine, List.getElem?_map, StateList.numbered, StateList.numberFrom_getElem?,
    Option.map_map]
  rfl

/-- A machine with more states and more edges at their ends goes on with its chains. -/
theorem goesOnIn_ofMachine (h : IsJoined states ts) (h' : IsJoined states' ts')
    (hstates : states.names <+: states'.names) (hedges : ts.edges <+: ts'.edges)
    (start start' : String) :
    (Circuit.ofMachine states ts start).GoesOnIn (Circuit.ofMachine states' ts' start') := by
  intro i arm harm
  rw [getElem?_choosers, Option.map_eq_some_iff] at harm
  obtain ⟨n, hn, rfl⟩ := harm
  obtain ⟨us, hus⟩ := hedges
  have hmore : ts'.ofEntry (1 + i : Nat) =
      ts.ofEntry (1 + i : Nat) ++ TransitionSet.ofEntry ⟨us⟩ (1 + i : Nat) := by
    rw [TransitionSet.ofEntry, ← hus, List.filter_append]
    rfl
  refine ⟨_, (TransitionSet.ofEntry ⟨us⟩ (1 + i : Nat)).map Branch.ofTransition, rfl, ?_⟩
  rw [getElem?_choosers, getElem?_of_isPrefix hstates hn, h.fromPosition_eq, h'.fromPosition_eq,
    hmore, List.map_append]
  rfl

end Hdl

/-! ## Requests -/

section Requests

variable {settings : Settings} {raw : Option String} {spec spec' : String} {g : Generation}
  {states' : StateList}

/-- A text of pairs with more pairs behind it, or as it is. -/
def IsLonger (spec spec' : String) : Prop := spec' = spec ∨ ∃ b, spec' = spec ++ ";" ++ b

theorem read_of_generate_advanced {spec : Option String}
    (h : Request.generate settings (.advanced raw spec) = .ok g) :
    StateList.read (raw.getD "") = .ok g.definition.states ∧
      TransitionSet.read (spec.getD "") g.definition.states = .ok g.definition.transitions := by
  obtain ⟨hread, _⟩ := read_of_generate h
  rw [Request.value_advanced, bind_eq_ok_iff] at hread
  obtain ⟨states, hstates, hread⟩ := hread
  obtain ⟨ts, hedges, hdefinition⟩ := map_eq_ok_iff.1 hread
  rw [← hdefinition]
  exact ⟨mapError_eq_ok_iff.1 hstates, hedges⟩

theorem isPrefix_of_isLonger {states : StateList} {ts ts' : TransitionSet}
    (hstates : states.names <+: states'.names) (hspec : IsLonger spec spec')
    (h : TransitionSet.read spec states = .ok ts)
    (h' : TransitionSet.read spec' states' = .ok ts') : ts.edges <+: ts'.edges := by
  have hold := TransitionSet.read_of_isPrefix hstates h
  rcases hspec with rfl | ⟨b, rfl⟩
  · obtain rfl : ts = ts' := Except.ok.inj (hold.symm.trans h')
    exact List.prefix_refl _
  · exact TransitionSet.isPrefix_of_read_append hold h'

end Requests

/-- The pairs of a text joined to another give their edges behind those of the other, unless
one of the texts is refused: then the first that is. Pairs over some states have the same
edges over a list that goes on with more. So a request with more pairs or more states is met
with the chains that there were, each with any further tests behind it. -/
theorem what_is_added_comes_last :
    (∀ (states : StateList) (a b : String), (∀ token ∈ pairTokens b, HasShortSides token) →
      (pairTokens a ≠ [] → pairTokens b ≠ [] →
        TransitionSet.read (a ++ ";" ++ b) states =
          (TransitionSet.read a states).bind fun ts =>
            (TransitionSet.read b states).map fun us => ⟨ts.edges ++ us.edges⟩) ∧
      (pairTokens b = [] → TransitionSet.read (a ++ ";" ++ b) states =
        TransitionSet.read a states) ∧
      (pairTokens a = [] → TransitionSet.read (a ++ ";" ++ b) states =
        TransitionSet.read b states)) ∧
    (∀ (states states' : StateList) (raw : String) (ts : TransitionSet),
      states.names <+: states'.names → TransitionSet.read raw states = .ok ts →
      TransitionSet.read raw states' = .ok ts) ∧
    ∀ (settings settings' : Settings) (raw raw' : Option String) (spec spec' : String)
      (g : Generation) (states' : StateList),
      Request.generate settings (.advanced raw (some spec)) = .ok g →
      StateList.read (raw'.getD "") = .ok states' → g.definition.states.names <+: states'.names →
      IsLonger spec spec' →
      (∀ ts, TransitionSet.read spec' states' = .ok ts → settings'.strict = false →
        ∃ g', Request.generate settings' (.advanced raw' (some spec')) = .ok g') ∧
      ∀ g', Request.generate settings' (.advanced raw' (some spec')) = .ok g' →
        ∃ c c', Hdl.Circuit.read g.code = some c ∧ Hdl.Circuit.read g'.code = some c' ∧
          c.GoesOnIn c' := by
  refine ⟨fun states a b hshort => ⟨fun ha hb => TransitionSet.read_append ha hb hshort states,
      fun hb => TransitionSet.read_congr (by simp [pairTokens_append, hb]) states,
      fun ha => TransitionSet.read_congr (by simp [pairTokens_append, ha]) states⟩,
    fun states states' raw ts hstates hread => TransitionSet.read_of_isPrefix hstates hread, ?_⟩
  intro settings settings' raw raw' spec spec' g states' hg hstates' hstates hspec
  constructor
  · intro ts hread hpermissive
    have hmachine : (Request.advanced raw' (some spec')).read.value =
        .ok ⟨states', ts, .explicit⟩ := by
      rw [Request.value_advanced_of_states hstates', Option.getD_some, hread]
      rfl
    obtain ⟨start, hstart⟩ := (Request.isJoined_of_read hmachine).spelled.exists_reset
    rw [Request.generate_of_read hmachine]
    exact ⟨_, Request.value_finish_of_clean _ _ hstart (by simp [Report.startingIn, hpermissive])⟩
  · intro g' hg'
    obtain ⟨start, haccepted⟩ := exists_accepted hg
    obtain ⟨start', haccepted'⟩ := exists_accepted hg'
    obtain ⟨_, hedges⟩ := read_of_generate_advanced hg
    obtain ⟨hread', hedges'⟩ := read_of_generate_advanced hg'
    obtain rfl : states' = g'.definition.states := Except.ok.inj (hstates'.symm.trans hread')
    exact ⟨_, _, haccepted.read_code, haccepted'.read_code,
      Hdl.goesOnIn_ofMachine haccepted.joined haccepted'.joined hstates
        (isPrefix_of_isLonger hstates hspec hedges hedges') start start'⟩

/-- A third state, and two pairs behind a blank field: the new test of the first state stands
behind the one that it had, and the second state has its first test. -/
theorem a_new_way_out_is_tested_last :
    TransitionSet.read "1-2;; 1-3;2-1" ⟨["A", "B", "C"]⟩ =
        .ok ⟨[⟨"A", "B", 1⟩, ⟨"A", "C", 1⟩, ⟨"B", "A", 2⟩]⟩ ∧
      ∃ g g' c c', Request.generate {} (.advanced (some "A;B") (some "1-2")) = .ok g ∧
        Request.generate {} (.advanced (some "A;B;C") (some "1-2;; 1-3;2-1")) = .ok g' ∧
        Hdl.Circuit.read g.code = some c ∧ Hdl.Circuit.read g'.code = some c' ∧
        c.GoesOnIn c' := by
  obtain ⟨hpairs, hstates, hrequests⟩ := what_is_added_comes_last
  have hlength : ∀ token ∈ pairTokens "; 1-3;2-1", token.toList.length ≤ Text.numeralLimit := by
    decide
  have hread : TransitionSet.read "1-2;; 1-3;2-1" ⟨["A", "B", "C"]⟩ =
      .ok ⟨[⟨"A", "B", 1⟩, ⟨"A", "C", 1⟩, ⟨"B", "A", 2⟩]⟩ := by
    have happend := (hpairs ⟨["A", "B", "C"]⟩ "1-2" "; 1-3;2-1"
      fun token htoken => hasShortSides_of_length_le (hlength token htoken)).1
      (by decide) (by decide)
    rw [hstates ⟨["A", "B"]⟩ ⟨["A", "B", "C"]⟩ "1-2" ⟨[⟨"A", "B", 1⟩]⟩ (by decide) rfl] at happend
    exact happend
  obtain ⟨g, hg, hdefinition⟩ : ∃ g, Request.generate {} (.advanced (some "A;B") (some "1-2")) =
      .ok g ∧ g.definition.states = ⟨["A", "B"]⟩ := ⟨_, rfl, rfl⟩
  obtain ⟨hmet, hchains⟩ := hrequests {} {} (some "A;B") (some "A;B;C") "1-2" "1-2;; 1-3;2-1" g
    ⟨["A", "B", "C"]⟩ hg rfl (by rw [hdefinition]; decide) (.inr ⟨"; 1-3;2-1", rfl⟩)
  obtain ⟨g', hg'⟩ := hmet _ hread rfl
  obtain ⟨c, c', hc, hc', hgoes⟩ := hchains g' hg'
  exact ⟨hread, g, g', c, c', hg, hg', hc, hc', hgoes⟩

end ThreeBlock
