-- The text of a machine is read back as it was written. Its lines of code
-- are its own lines without comments, and each block is read from them, so
-- the text spells the circuit of its document whatever the names are.
import ThreeBlock.Proofs.Hdl.CodeLines
namespace ThreeBlock.Hdl

/-! ## The state type -/

theorem mem_enumLines {states : List String} {l : String} (h : l ∈ enumLines states) :
    ∃ n ∈ states, l = "    " ++ n ++ "" ∨ l = "    " ++ n ++ "," := by
  induction states using enumLines.induct with
  | case1 => simp [enumLines] at h
  | case2 n =>
    simp only [enumLines, List.mem_singleton] at h
    exact ⟨n, List.mem_cons_self, Or.inl (by simp [h])⟩
  | case3 n ns hne ih =>
    rw [enumLines, List.mem_cons] at h
    · rcases h with rfl | h
      · exact ⟨n, List.mem_cons_self, Or.inr rfl⟩
      · obtain ⟨m, hm, hl⟩ := ih h
        exact ⟨m, List.mem_cons_of_mem _ hm, hl⟩
    · exact hne

theorem isCode_enumLines {states : List String} (h : ∀ n ∈ states, isIdentifier n = true) :
    ∀ l ∈ enumLines states, IsCode l := by
  intro l hl
  obtain ⟨n, hn, rfl | rfl⟩ := mem_enumLines hl
  · exact isCode_of_framesCode (by decide) (isWord_of_isIdentifier (h n hn))
  · exact isCode_of_framesCode (by decide) (isWord_of_isIdentifier (h n hn))

theorem readEntries_enumLines {states : List String} (h : ∀ n ∈ states, isIdentifier n = true)
    (hne : states ≠ []) : readEntries (enumLines states) = some states := by
  induction states using enumLines.induct with
  | case1 => exact absurd rfl hne
  | case2 n =>
    have hn := between_word "    " "" (h n List.mem_cons_self)
    rw [String.append_empty] at hn
    rw [enumLines, readEntries, hn]
    rfl
  | case3 n ns hns ih =>
    have hn := between_word "    " "," (h n List.mem_cons_self)
    have hrest := ih (fun m hm => h m (List.mem_cons_of_mem _ hm)) hns
    have hlines : enumLines ns ≠ [] := by
      intro he
      rw [he] at hrest
      cases hrest
    rw [enumLines, readEntries, hn, hrest]
    · rfl
    · exact hlines
    · exact hns

theorem codeOf_stateTypeLines {states : List String}
    (h : ∀ n ∈ states, isIdentifier n = true) :
    codeOf (stateTypeLines states) =
      ["typedef enum \x7b"] ++ (enumLines states ++ ["\x7d fsm_state;"]) := by
  rw [stateTypeLines, codeOf_append, codeOf_append, codeOf_of_isCode (isCode_enumLines h),
    List.append_assoc]
  rfl

theorem readStateType_stateTypeLines {states : List String}
    (h : ∀ n ∈ states, isIdentifier n = true) (hne : states ≠ []) (rest : List String) :
    readStateType (codeOf (stateTypeLines states) ++ rest) = some (states, rest) := by
  have hbody : "\x7d fsm_state;" ∉ enumLines states := by
    refine not_mem_of_getElem? (i := 0) (c := ' ') ?_ (by decide)
    intro l hl
    obtain ⟨n, _, rfl | rfl⟩ := mem_enumLines hl <;> simp
  rw [codeOf_stateTypeLines h, List.append_assoc, List.append_assoc, readStateType,
    List.dropPrefix?_append_of_beq _ (beq_self_eq_true _), Option.bind_eq_bind,
    Option.bind_some, upTo_append hbody]
  simp [readEntries_enumLines h hne]

/-! ## The record of flags -/

theorem codeOf_flagTypeLines {flags : List String} (h : ∀ f ∈ flags, isIdentifier f = true) :
    codeOf (flagTypeLines flags) =
      ["typedef struct packed \x7b"] ++
        ((flags.map fun f => "    logic " ++ f ++ ";") ++ ["\x7d fsm_transition_flags;"]) := by
  rw [flagTypeLines, codeOf_append, codeOf_append, codeOf_of_isCode (isCode_map (by decide) h),
    List.append_assoc]
  rfl

theorem readFlagType_flagTypeLines {flags : List String}
    (h : ∀ f ∈ flags, isIdentifier f = true) (rest : List String) :
    readFlagType (codeOf (flagTypeLines flags) ++ rest) = some (flags, rest) := by
  have hbody : "\x7d fsm_transition_flags;" ∉ flags.map fun f => "    logic " ++ f ++ ";" := by
    refine not_mem_of_getElem? (i := 0) (c := ' ') ?_ (by decide)
    intro l hl
    obtain ⟨f, _, rfl⟩ := List.mem_map.1 hl
    simp
  rw [codeOf_flagTypeLines h, List.append_assoc, List.append_assoc, readFlagType,
    List.dropPrefix?_append_of_beq _ (beq_self_eq_true _), Option.bind_eq_bind,
    Option.bind_some, upTo_append hbody]
  simp [mapM_between "    logic " ";" h]

/-! ## Arms -/

theorem codeOf_armLines {state : String} {body : List String} (hs : isIdentifier state = true)
    (h : ∀ l ∈ body, IsCode l) :
    codeOf (armLines state body) =
      ["        " ++ state ++ ": begin"] ++ (body ++ ["        end"]) := by
  have hopen : codeOf ["        " ++ state ++ ": begin"] = ["        " ++ state ++ ": begin"] := by
    apply codeOf_of_isCode
    intro l hl
    rw [List.mem_singleton.1 hl]
    exact isCode_of_framesCode (by decide) (isWord_of_isIdentifier hs)
  have hbody : codeOf (if body = [] then [Comment.noTransitions] else body) = body := by
    split
    · next he =>
      rw [he]
      decide
    · exact codeOf_of_isCode h
  rw [armLines, ← List.singleton_append, codeOf_append, codeOf_append, hopen, hbody]
  rfl

/-- An open arm takes in lines up to the one that closes it. -/
theorem readArms_body {entries : List String} {name : String} (sofar : List String)
    {body : List String} (h : "        end" ∉ body) (rest : List String) :
    readArms entries (some (name, sofar)) (body ++ "        end" :: rest) =
      (readArms entries none rest).map fun arms => (name, sofar ++ body) :: arms := by
  induction body generalizing sofar with
  | nil => simp [readArms]
  | cons l ls ih =>
    rw [List.mem_cons, not_or] at h
    rw [List.cons_append, readArms, if_neg (Ne.symm h.1), ih _ h.2]
    simp

/-- An arm with the lines of its body, as the text has it. -/
def armCode (a : String × List String) : List String :=
  ["        " ++ a.1 ++ ": begin"] ++ (a.2 ++ ["        end"])

theorem readArms_armCode {entries : List String} {arms : List (String × List String)}
    (hs : ∀ a ∈ arms, a.1 ∈ entries ∧ isIdentifier a.1 = true)
    (hb : ∀ a ∈ arms, "        end" ∉ a.2) :
    readArms entries none (arms.flatMap armCode) = some arms := by
  induction arms with
  | nil => rfl
  | cons a as ih =>
    obtain ⟨hmem, hid⟩ := hs a List.mem_cons_self
    have hopen : (between "        " ": begin" ("        " ++ a.1 ++ ": begin")).filter
        (entries.contains ·) = some a.1 := by
      rw [between_word _ _ hid]
      simp [hmem]
    have hrest := ih (fun b hb' => hs b (List.mem_cons_of_mem _ hb'))
      fun b hb' => hb b (List.mem_cons_of_mem _ hb')
    rw [List.flatMap_cons, armCode, List.append_assoc, List.append_assoc, List.singleton_append,
      List.singleton_append, readArms, hopen, Option.bind_eq_bind, Option.bind_some,
      readArms_body [] (hb a List.mem_cons_self), hrest]
    simp

/-- The lines of an arm stand deeper than those of its block. -/
theorem getElem?_of_mem_armCode {a : String × List String} {l : String}
    (hb : ∀ m ∈ a.2, m.toList[4]? = some ' ') (h : l ∈ armCode a) : l.toList[4]? = some ' ' := by
  simp only [armCode, List.mem_append, List.mem_singleton] at h
  rcases h with rfl | h | rfl
  · simp
  · exact hb l h
  · rfl

/-! ## Case blocks -/

theorem readCases_append (entries opening : List String) (arms : List (String × List String))
    (other : String) (hs : ∀ a ∈ arms, a.1 ∈ entries ∧ isIdentifier a.1 = true)
    (hb : ∀ a ∈ arms, ∀ l ∈ a.2, l.toList[4]? = some ' ' ∧ l.toList[8]? = some ' ')
    (ho : other ≠ "    endcase") (rest : List String) :
    readCases entries opening
        (opening ++ (arms.flatMap armCode ++ [other] ++ (["    endcase"] ++ (["end"] ++ rest)))) =
      some (arms, other, rest) := by
  have hend : ∀ a ∈ arms, "        end" ∉ a.2 := fun a ha =>
    not_mem_of_getElem? (i := 8) (c := ' ') (fun l hl => (hb a ha l hl).2) (by decide)
  have hcase : "    endcase" ∉ arms.flatMap armCode := by
    refine not_mem_of_getElem? (i := 4) (c := ' ') ?_ (by decide)
    intro l hl
    obtain ⟨a, ha, hl⟩ := List.mem_flatMap.1 hl
    exact getElem?_of_mem_armCode (fun m hm => (hb a ha m hm).1) hl
  have hbody : "    endcase" ∉ arms.flatMap armCode ++ [other] := by
    simp only [List.mem_append, List.mem_singleton, not_or]
    exact ⟨hcase, Ne.symm ho⟩
  rw [readCases, List.dropPrefix?_append_of_beq _ (beq_self_eq_true _), Option.bind_eq_bind,
    Option.bind_some, upTo_append hbody]
  simp [readArms_armCode hs hend, List.dropPrefix?]

/-! ## The circuit of a document -/

/-- The tests of a chain of branches: each but the first is an alternative. -/
def testsOf : List Branch → List Test
  | [] => []
  | b :: bs => ⟨false, b.flag, b.target⟩ :: bs.map fun b => ⟨true, b.flag, b.target⟩

/-- The circuit that the text of a document spells. -/
def Circuit.ofDocument (d : Document) : Circuit where
  entries := d.states
  members := d.flags
  setters := d.arms.map fun a => (a.state, a.branches.map Branch.flag)
  choosers := d.arms.map fun a => (a.state, testsOf a.branches)
  fallback := d.reset
  reset := d.reset

/-- An arm with identifiers as its names, that belongs to an entry. -/
structure Arm.IsNamed (states : List String) (a : Arm) : Prop where
  entry : a.state ∈ states
  flag : ∀ b ∈ a.branches, isIdentifier b.flag = true
  target : ∀ b ∈ a.branches, isIdentifier b.target = true

/-- A document with at least one state, in which all names are identifiers and
all arms belong to entries. -/
structure Document.IsNamed (d : Document) : Prop where
  nonempty : d.states ≠ []
  states : ∀ n ∈ d.states, isIdentifier n = true
  flags : ∀ f ∈ d.flags, isIdentifier f = true
  arms : ∀ a ∈ d.arms, a.IsNamed d.states
  reset : isIdentifier d.reset = true
  stateMap : ∀ e ∈ d.stateMap, '\n' ∉ e.toList

theorem codeOf_flatMap {α : Type} (f : α → List String) (xs : List α) :
    codeOf (xs.flatMap f) = xs.flatMap fun x => codeOf (f x) := by
  induction xs with
  | nil => rfl
  | cons x xs ih => rw [List.flatMap_cons, codeOf_append, ih, List.flatMap_cons]

theorem codeOf_arms {arms : List Arm} (body : Arm → List String)
    (hs : ∀ a ∈ arms, isIdentifier a.state = true) (hb : ∀ a ∈ arms, ∀ l ∈ body a, IsCode l) :
    codeOf (arms.flatMap fun a => armLines a.state (body a)) =
      (arms.map fun a => (a.state, body a)).flatMap armCode := by
  rw [codeOf_flatMap, List.flatMap_map]
  exact List.flatMap_congr fun a ha => codeOf_armLines (hs a ha) (hb a ha)

/-- When every body is read, all arms are. -/
theorem mapM_bodies {α : Type} {arms : List Arm} {body : Arm → List String} {result : Arm → α}
    (read : List String → Option α) (h : ∀ a ∈ arms, read (body a) = some (result a)) :
    ((arms.map fun a => (a.state, body a)).mapM fun a => (read a.2).map fun r => (a.1, r)) =
      some (arms.map fun a => (a.state, result a)) := by
  induction arms with
  | nil => rfl
  | cons a as ih =>
    rw [List.map_cons, List.mapM_cons, h a List.mem_cons_self,
      ih fun b hb => h b (List.mem_cons_of_mem _ hb)]
    rfl

/-! ## The block that sets the flags -/

theorem map_conditionLine (bs : List Branch) :
    bs.map conditionLine =
      (bs.map Branch.flag).map fun f => "            trans_flags." ++ f ++ " = ...;" := by
  rw [List.map_map]
  rfl

theorem isCode_conditionLines {states : List String} {a : Arm} (h : a.IsNamed states) :
    ∀ l ∈ a.branches.map conditionLine, IsCode l := by
  rw [map_conditionLine]
  refine isCode_map (by decide) fun f hm => ?_
  obtain ⟨b, hb, rfl⟩ := List.mem_map.1 hm
  exact h.flag b hb

theorem codeOf_conditionBlock {states : List String} {arms : List Arm}
    (hs : ∀ n ∈ states, isIdentifier n = true) (ha : ∀ a ∈ arms, a.IsNamed states) :
    codeOf (conditionBlock arms) =
      ["always_comb begin : transition_condition_gen", "    " ++ clearFlags,
        "    unique case (cur_state)"] ++
        ((arms.map fun a => (a.state, a.branches.map conditionLine)).flatMap armCode ++
          (["        default: " ++ clearFlags] ++ (["    endcase"] ++ ["end"]))) := by
  have harms := codeOf_arms (fun a => a.branches.map conditionLine)
    (fun a hm => hs _ (ha a hm).entry) fun a hm => isCode_conditionLines (ha a hm)
  rw [conditionBlock, codeOf_append, codeOf_append, harms, List.append_assoc]
  rfl

theorem readSetters_conditionBlock {states : List String} {arms : List Arm}
    (hs : ∀ n ∈ states, isIdentifier n = true) (ha : ∀ a ∈ arms, a.IsNamed states)
    (rest : List String) :
    readSetters states (codeOf (conditionBlock arms) ++ rest) =
      some (arms.map fun a => (a.state, a.branches.map Branch.flag), rest) := by
  have hbodies : ∀ a ∈ arms, (a.branches.map conditionLine).mapM
      (between "            trans_flags." " = ...;") = some (a.branches.map Branch.flag) := by
    intro a hm
    rw [map_conditionLine]
    apply mapM_between
    intro f hf
    obtain ⟨b, hb, rfl⟩ := List.mem_map.1 hf
    exact (ha a hm).flag b hb
  have hcases := readCases_append states
    ["always_comb begin : transition_condition_gen", "    " ++ clearFlags,
      "    unique case (cur_state)"]
    (arms.map fun a => (a.state, a.branches.map conditionLine))
    ("        default: " ++ clearFlags) ?_ ?_ (by decide) rest
  · rw [readSetters, codeOf_conditionBlock hs ha]
    simp only [List.append_assoc] at hcases ⊢
    rw [hcases, Option.bind_eq_bind, Option.bind_some, mapM_bodies _ hbodies]
    rfl
  · intro p hp
    obtain ⟨a, hm, rfl⟩ := List.mem_map.1 hp
    exact ⟨(ha a hm).entry, hs _ (ha a hm).entry⟩
  · intro p hp l hl
    obtain ⟨a, hm, rfl⟩ := List.mem_map.1 hp
    rw [map_conditionLine] at hl
    obtain ⟨f, _, rfl⟩ := List.mem_map.1 hl
    simp

/-! ## The block that picks the next state -/

/-- What stands in front of the flag in a test. -/
def Test.opening : Bool → String
  | false => "            if (trans_flags."
  | true => "            else if (trans_flags."

/-- The lines of a test. -/
def Test.lines (t : Test) : List String :=
  [opening t.alternative ++ t.flag ++ ")", "                next_state = " ++ t.target ++ ";"]

theorem chainLines_eq (bs : List Branch) : chainLines bs = (testsOf bs).flatMap Test.lines := by
  cases bs with
  | nil => rfl
  | cons b bs =>
    rw [chainLines, testsOf, List.flatMap_cons, List.flatMap_map]
    rfl

/-- An alternative does not read as the start of a chain. -/
theorem readTest_opening (alternative : Bool) {flag : String} (h : isIdentifier flag = true) :
    readTest (Test.opening alternative ++ flag ++ ")") = some (alternative, flag) := by
  cases alternative with
  | false =>
    rw [Test.opening, readTest, between_word _ _ h]
    rfl
  | true =>
    have hnot : between "            if (trans_flags." ")"
        ("            else if (trans_flags." ++ flag ++ ")") = none := by
      have hdrop : ("            else if (trans_flags." ++ flag ++ ")").toList.dropPrefix?
          "            if (trans_flags.".toList = none := by
        simp [List.dropPrefix?]
      rw [between, hdrop]
      rfl
    rw [Test.opening, readTest, hnot, between_word _ _ h]
    rfl

theorem readTests_lines {ts : List Test}
    (h : ∀ t ∈ ts, isIdentifier t.flag = true ∧ isIdentifier t.target = true) :
    readTests (ts.flatMap Test.lines) = some ts := by
  induction ts with
  | nil => rfl
  | cons t ts ih =>
    obtain ⟨hflag, htarget⟩ := h t List.mem_cons_self
    have hrest := ih fun u hu => h u (List.mem_cons_of_mem _ hu)
    rw [List.flatMap_cons, Test.lines, List.cons_append, List.cons_append, List.nil_append,
      readTests, readTest_opening _ hflag, between_word _ _ htarget, hrest]
    rfl

/-- The lines of tests are code, and stand as deep as the body of an arm. -/
theorem of_mem_lines {ts : List Test} {l : String}
    (h : ∀ t ∈ ts, isIdentifier t.flag = true ∧ isIdentifier t.target = true)
    (hl : l ∈ ts.flatMap Test.lines) :
    IsCode l ∧ l.toList[4]? = some ' ' ∧ l.toList[8]? = some ' ' := by
  obtain ⟨t, ht, hl⟩ := List.mem_flatMap.1 hl
  have hflag := isWord_of_isIdentifier (h t ht).1
  have htarget := isWord_of_isIdentifier (h t ht).2
  simp only [Test.lines, List.mem_cons, List.not_mem_nil, or_false] at hl
  rcases hl with rfl | rfl
  · cases t.alternative with
    | false => exact ⟨isCode_of_framesCode (by decide) hflag, by simp [Test.opening]⟩
    | true => exact ⟨isCode_of_framesCode (by decide) hflag, by simp [Test.opening]⟩
  · exact ⟨isCode_of_framesCode (by decide) htarget, by simp⟩

theorem mem_testsOf {bs : List Branch} {t : Test} (h : t ∈ testsOf bs) :
    ∃ b ∈ bs, t.flag = b.flag ∧ t.target = b.target := by
  cases bs with
  | nil => cases h
  | cons b bs =>
    rw [testsOf, List.mem_cons, List.mem_map] at h
    rcases h with rfl | ⟨c, hc, rfl⟩
    · exact ⟨b, List.mem_cons_self, rfl, rfl⟩
    · exact ⟨c, List.mem_cons_of_mem _ hc, rfl, rfl⟩

theorem Arm.IsNamed.tests {states : List String} {a : Arm} (h : a.IsNamed states) :
    ∀ t ∈ testsOf a.branches, isIdentifier t.flag = true ∧ isIdentifier t.target = true := by
  intro t ht
  obtain ⟨b, hb, hflag, htarget⟩ := mem_testsOf ht
  rw [hflag, htarget]
  exact ⟨h.flag b hb, h.target b hb⟩

theorem isCode_chainLines {states : List String} {a : Arm} (h : a.IsNamed states) :
    ∀ l ∈ chainLines a.branches, IsCode l := by
  intro l hl
  rw [chainLines_eq] at hl
  exact (of_mem_lines h.tests hl).1

theorem startsChain_testsOf (bs : List Branch) : startsChain (testsOf bs) = true := by
  cases bs <;> rfl

theorem codeOf_nextStateBlock (flavor : Flavor) {states : List String} {arms : List Arm}
    {reset : String} (hs : ∀ n ∈ states, isIdentifier n = true)
    (ha : ∀ a ∈ arms, a.IsNamed states) (hr : isIdentifier reset = true) :
    codeOf (nextStateBlock flavor arms reset) =
      ["always_comb begin : state_transition", "    next_state = cur_state;",
        "    unique case (cur_state)"] ++
        ((arms.map fun a => (a.state, chainLines a.branches)).flatMap armCode ++
          (["        default: next_state = " ++ reset ++ ";"] ++
            (["    endcase"] ++ ["end"]))) := by
  have harms := codeOf_arms (fun a => chainLines a.branches)
    (fun a hm => hs _ (ha a hm).entry) fun a hm => isCode_chainLines (ha a hm)
  have hother : IsCode ("        default: next_state = " ++ reset ++ ";") :=
    isCode_of_framesCode (by decide) (isWord_of_isIdentifier hr)
  have hclose :
      codeOf ["        default: next_state = " ++ reset ++ ";", "    endcase", "end", ""] =
        ["        default: next_state = " ++ reset ++ ";"] ++ (["    endcase"] ++ ["end"]) := by
    rw [← List.singleton_append, codeOf_append, codeOf_of_isCode (by simpa using hother)]
    rfl
  rw [nextStateBlock, codeOf_append, codeOf_append, harms, hclose, List.append_assoc]
  cases flavor <;> rfl

theorem readChoosers_nextStateBlock (flavor : Flavor) {states : List String} {arms : List Arm}
    {reset : String} (hs : ∀ n ∈ states, isIdentifier n = true)
    (ha : ∀ a ∈ arms, a.IsNamed states) (hr : isIdentifier reset = true) (rest : List String) :
    readChoosers states (codeOf (nextStateBlock flavor arms reset) ++ rest) =
      some (arms.map fun a => (a.state, testsOf a.branches), reset, rest) := by
  have hbodies : ∀ a ∈ arms, (readTests (chainLines a.branches)).filter startsChain =
      some (testsOf a.branches) := by
    intro a hm
    rw [chainLines_eq, readTests_lines (ha a hm).tests, Option.filter_some,
      if_pos (startsChain_testsOf _)]
  have harms := mapM_bodies (fun body => (readTests body).filter startsChain) hbodies
  have hother : "        default: next_state = " ++ reset ++ ";" ≠ "    endcase" := by
    intro he
    have hplace := congrArg (fun l : String => l.toList[4]?) he
    simp at hplace
  have hcases := readCases_append states
    ["always_comb begin : state_transition", "    next_state = cur_state;",
      "    unique case (cur_state)"]
    (arms.map fun a => (a.state, chainLines a.branches)) _ ?_ ?_ hother rest
  · rw [readChoosers, codeOf_nextStateBlock flavor hs ha hr]
    simp only [List.append_assoc] at hcases ⊢
    rw [hcases, Option.bind_eq_bind, Option.bind_some]
    simp only [harms, between_word _ _ hr]
    rfl
  · intro p hp
    obtain ⟨a, hm, rfl⟩ := List.mem_map.1 hp
    exact ⟨(ha a hm).entry, hs _ (ha a hm).entry⟩
  · intro p hp l hl
    obtain ⟨a, hm, rfl⟩ := List.mem_map.1 hp
    rw [chainLines_eq] at hl
    exact (of_mem_lines (ha a hm).tests hl).2

/-! ## The block that holds the register -/

theorem bareLine_reset {reset : String} (hr : isIdentifier reset = true) :
    bareLine ("        cur_state <= " ++ reset ++ "; // Reset initialization").toList =
      "        cur_state <= " ++ reset ++ ";" := by
  have hw := isWord_of_isIdentifier hr
  have hline : ("        cur_state <= " ++ reset ++ "; // Reset initialization").toList =
      ("        cur_state <= " ++ reset ++ ";" ++ " ").toList ++
        '/' :: '/' :: " Reset initialization".toList := by simp
  have hslash : '/' ∉ ("        cur_state <= " ++ reset ++ ";" ++ " ").toList := by
    simp [hw.not_mem (d := '/') (by decide)]
  have hblank : Text.trimEnd ("        cur_state <= " ++ reset ++ ";" ++ " ").toList =
      Text.trimEnd ("        cur_state <= " ++ reset ++ ";").toList := by
    rw [String.toList_append]
    simp [Text.trimEnd, show Text.isBlank ' ' = true by decide]
  rw [bareLine, hline, beforeComment_append hslash, hblank, trimEnd_word hw (by decide),
    String.ofList_toList]

theorem readRegister_registerBlock (flavor : Flavor) {reset : String}
    (hr : isIdentifier reset = true) :
    readRegister (codeOf (registerBlock flavor reset)) = some reset := by
  have hcode : codeOf (registerBlock flavor reset) =
      ["always_ff @(posedge clk or negedge rst_n) begin : state_register",
        "    if (!rst_n) begin"] ++
        ("        cur_state <= " ++ reset ++ ";") ::
          ["    end else begin", "        cur_state <= next_state;", "    end", "end"] := by
    have hline : codeOf ["        cur_state <= " ++ reset ++ "; // Reset initialization"] =
        ["        cur_state <= " ++ reset ++ ";"] := by
      have hframe : FramesCode "        cur_state <= " ";" := by decide
      have hne := (isCode_of_framesCode hframe (isWord_of_isIdentifier hr)).nonempty
      simp only [codeOf, List.map_cons, List.map_nil, bareLine_reset hr]
      simp [hne]
    change codeOf ([Comment.aboveRegister flavor,
      "always_ff @(posedge clk or negedge rst_n) begin : state_register",
      "    if (!rst_n) begin"] ++
        (["        cur_state <= " ++ reset ++ "; // Reset initialization"] ++
          ["    end else begin", "        cur_state <= next_state; // State update", "    end",
            "end"])) = _
    rw [codeOf_append, codeOf_append, hline]
    cases flavor <;> rfl
  rw [hcode, readRegister, List.dropPrefix?_append_of_beq _ (beq_self_eq_true _),
    Option.bind_eq_bind, Option.bind_some, List.head?_cons, Option.bind_eq_bind,
    Option.bind_some, between_word _ _ hr]
  rfl

/-! ## The whole text -/

theorem allWhole_armLines {state : String} {body : List String} (hs : isIdentifier state = true)
    (hb : ∀ l ∈ body, IsCode l) : AllWhole (armLines state body) := by
  have hopen : IsCode ("        " ++ state ++ ": begin") :=
    isCode_of_framesCode (by decide) (isWord_of_isIdentifier hs)
  have hbody : AllWhole (if body = [] then [Comment.noTransitions] else body) := by
    split
    · decide
    · exact allWhole_of_isCode hb
  have hclose : AllWhole ["        end"] := by decide
  exact hopen.allWhole.append (hbody.append hclose)

theorem allWhole_arms {arms : List Arm} {body : Arm → List String}
    (hs : ∀ a ∈ arms, isIdentifier a.state = true) (hb : ∀ a ∈ arms, ∀ l ∈ body a, IsCode l) :
    AllWhole (arms.flatMap fun a => armLines a.state (body a)) := by
  intro l hl
  obtain ⟨a, ha, hl⟩ := List.mem_flatMap.1 hl
  exact allWhole_armLines (hs a ha) (hb a ha) l hl

theorem allWhole_registerBlock (flavor : Flavor) {reset : String}
    (hr : isIdentifier reset = true) : AllWhole (registerBlock flavor reset) := by
  have hload : AllWhole ["        cur_state <= " ++ reset ++ "; // Reset initialization"] := by
    intro l hl
    rw [List.mem_singleton.1 hl]
    simp [(isWord_of_isIdentifier hr).not_mem (d := '\n') (by decide)]
  have hopen : AllWhole [Comment.aboveRegister flavor,
      "always_ff @(posedge clk or negedge rst_n) begin : state_register",
      "    if (!rst_n) begin"] := by
    cases flavor <;> decide
  exact hopen.append (hload.append (by decide))

theorem allWhole_bodyLines {d : Document} (h : d.IsNamed) : AllWhole (bodyLines d) := by
  have hs : ∀ a ∈ d.arms, isIdentifier a.state = true := fun a ha => h.states _ (h.arms a ha).entry
  have hother : IsCode ("        default: next_state = " ++ d.reset ++ ";") :=
    isCode_of_framesCode (by decide) (isWord_of_isIdentifier h.reset)
  have htype : AllWhole (stateTypeLines d.states) :=
    (AllWhole.append (by decide) (allWhole_of_isCode (isCode_enumLines h.states))).append
      (by decide)
  have hflags : AllWhole (flagTypeLines d.flags) :=
    (AllWhole.append (by decide) (allWhole_of_isCode (isCode_map (by decide) h.flags))).append
      (by decide)
  have hdeclarations : AllWhole (declarationLines d.flavor) := by
    cases d.flavor <;> decide
  have hconditions : AllWhole (conditionBlock d.arms) :=
    (AllWhole.append (by decide)
      (allWhole_arms hs fun a ha => isCode_conditionLines (h.arms a ha))).append (by decide)
  have hnext : AllWhole (nextStateBlock d.flavor d.arms d.reset) := by
    have hopen : AllWhole [Comment.aboveNextState d.flavor,
        "always_comb begin : state_transition", "    next_state = cur_state;", "",
        "    unique case (cur_state)"] := by
      cases d.flavor <;> decide
    have hclose : AllWhole ["    endcase", "end", ""] := by decide
    exact (hopen.append (allWhole_arms hs fun a ha => isCode_chainLines (h.arms a ha))).append
      (hother.allWhole.append hclose)
  exact ((((htype.append hflags).append hdeclarations).append hconditions).append hnext).append
    (allWhole_registerBlock d.flavor h.reset)

theorem allWhole_stateMapLines {entries : List String} (h : ∀ e ∈ entries, '\n' ∉ e.toList) :
    AllWhole (stateMapLines entries) := by
  cases entries with
  | nil => decide
  | cons e es =>
    have htable : AllWhole ((e :: es).map fun m => "// " ++ m) := by
      intro l hl
      obtain ⟨m, hm, rfl⟩ := List.mem_map.1 hl
      simp [h m hm]
    have htitle : AllWhole ["// State mapping"] := by decide
    exact htitle.append (htable.append (by decide))

/-- The table of states, where it is shown. -/
def Document.table (d : Document) : List String :=
  match d.flavor with
  | .cyclic => []
  | .explicit => stateMapLines d.stateMap

theorem lines_eq_table (d : Document) : d.lines = d.table ++ bodyLines d := by
  unfold Document.lines Document.table
  cases d.flavor <;> rfl

theorem allWhole_lines {d : Document} (h : d.IsNamed) : AllWhole d.lines := by
  have htable : AllWhole d.table := by
    unfold Document.table
    cases d.flavor with
    | cyclic => exact List.forall_mem_nil _
    | explicit => exact allWhole_stateMapLines h.stateMap
  rw [lines_eq_table]
  exact htable.append (allWhole_bodyLines h)

/-- The table of states is no code. -/
theorem codeOf_stateMapLines (entries : List String) : codeOf (stateMapLines entries) = [] := by
  cases entries with
  | nil => rfl
  | cons e es =>
    have htable : codeOf ((e :: es).map fun m => "// " ++ m) = [] := by
      rw [codeOf, List.filter_eq_nil_iff]
      intro l hl
      rw [List.map_map] at hl
      obtain ⟨m, _, rfl⟩ := List.mem_map.1 hl
      have hbare : bareLine ("// " ++ m).toList = "" := by
        rw [bareLine, String.toList_append]
        exact congrArg (fun cs => String.ofList (Text.trimEnd cs))
          (beforeComment_append List.not_mem_nil _)
      simpa using hbare
    change codeOf (["// State mapping"] ++ (((e :: es).map fun m => "// " ++ m) ++ [""])) = []
    rw [codeOf_append, codeOf_append, htable]
    rfl

theorem codeLines_text {d : Document} (h : d.IsNamed) :
    codeLines d.text = codeOf (bodyLines d) := by
  have htable : codeOf d.table = [] := by
    unfold Document.table
    cases d.flavor with
    | cyclic => rfl
    | explicit => exact codeOf_stateMapLines d.stateMap
  rw [Document.text, codeLines_textOfLines (allWhole_lines h), lines_eq_table, codeOf_append,
    htable, List.nil_append]

theorem codeOf_declarationLines (flavor : Flavor) :
    codeOf (declarationLines flavor) =
      ["fsm_state cur_state, next_state;", "fsm_transition_flags trans_flags;"] := by
  cases flavor <;> rfl

/-- The text of a document spells its circuit. -/
theorem read_text {d : Document} (h : d.IsNamed) :
    Circuit.read d.text = some (Circuit.ofDocument d) := by
  rw [Circuit.read, codeLines_text h]
  simp only [bodyLines, codeOf_append, List.append_assoc]
  simp only [readStateType_stateTypeLines h.states h.nonempty, Option.bind_eq_bind,
    Option.bind_some, readFlagType_flagTypeLines h.flags, codeOf_declarationLines,
    List.dropPrefix?_append_of_beq _ (beq_self_eq_true _),
    readSetters_conditionBlock h.states h.arms,
    readChoosers_nextStateBlock d.flavor h.states h.arms h.reset,
    readRegister_registerBlock d.flavor h.reset]
  rfl

end ThreeBlock.Hdl
