-- Strict mode only filters. It refuses a machine that would be met without it
-- just when a state or a flag is repeated, and the fault says what would have
-- been the first warning. It changes nothing else.
import ThreeBlock.Proofs.Acceptance
namespace ThreeBlock

/-- What strict mode objects to in a machine: its repeated states, or else its
repeated flags. -/
inductive StrictObjection (d : Definition) : Fault → Prop
  | states {names : List String} : ¬ d.states.names.Nodup → AreRepeats d.states.names names →
      StrictObjection d (.duplicateStates names)
  | flags {flags : List String} : d.states.names.Nodup → ¬ d.transitions.flags.Nodup →
      AreRepeats d.transitions.flags flags → StrictObjection d (.duplicateFlags flags)

/-! ## Faults and the warnings that stand for them -/

/-- Only an empty name is shown in quotes. -/
theorem joined_of_nonempty {names : List String} (h : ∀ n ∈ names, n ≠ "") :
    Fault.joined names = String.intercalate ", " names := by
  have hshown : (names.map fun n => if n = "" then Text.quoted n else n) = names := by
    conv_rhs => rw [← List.map_id names]
    exact List.map_congr_left fun n hn => if_neg (h n hn)
  rw [Fault.joined, hshown]

theorem message_duplicateStates {names : List String} (h : ∀ n ∈ names, n ≠ "") :
    (Fault.duplicateStates names).message = Report.repeatedStates names :=
  congrArg Fault.duplicateText (joined_of_nonempty h)

theorem message_duplicateFlags {flags : List String} (h : ∀ f ∈ flags, f ≠ "") :
    (Fault.duplicateFlags flags).message = Report.repeatedFlags flags :=
  congrArg Fault.duplicateFlagText (joined_of_nonempty h)

/-! ## Two reviews of one machine -/

section Reviews

variable {d : Definition}

theorem strictErrors_eq_nil_iff :
    Report.strictErrors d = [] ↔ d.states.names.Nodup ∧ d.transitions.flags.Nodup := by
  unfold Report.strictErrors
  rw [← repeated_eq_nil_iff, ← repeated_eq_nil_iff, List.append_eq_nil_iff]
  by_cases hs : repeated d.states.names = []
  · by_cases hf : repeated d.transitions.flags = []
    · simp [hs, hf]
    · simp [hs, hf]
  · simp [hs]

theorem repeatWarnings_of_nodup (hs : d.states.names.Nodup) (hf : d.transitions.flags.Nodup) :
    Report.repeatWarnings d = [] := by
  unfold Report.repeatWarnings
  simp [repeated_eq_nil_iff.2 hs, repeated_eq_nil_iff.2 hf]

/-- Without repeats the two reviews are the same. -/
theorem startingIn_of_nodup (start : String) (hs : d.states.names.Nodup)
    (hf : d.transitions.flags.Nodup) :
    Report.startingIn start true d = Report.startingIn start false d := by
  have herrors : Report.strictErrors d = [] := strictErrors_eq_nil_iff.2 ⟨hs, hf⟩
  simp [Report.startingIn, herrors, repeatWarnings_of_nodup hs hf]

/-- The first error of one review says what the first warning of the other says. -/
theorem exists_objection (start : String) (h : IsJoined d.states d.transitions)
    (hrepeat : ¬ (d.states.names.Nodup ∧ d.transitions.flags.Nodup)) :
    ∃ f fs, (Report.startingIn start true d).errors = f :: fs ∧ StrictObjection d f ∧
      (Report.startingIn start false d).warnings.head? = some f.message := by
  obtain ⟨kept, _, hwarnings⟩ := Report.exists_withDeadEnds d (Report.repeatWarnings d ++
    (unreachable d.states d.transitions start).map (Report.notReached start))
  have hhead : (Report.startingIn start false d).warnings =
      Report.repeatWarnings d ++ ((unreachable d.states d.transitions start).map
        (Report.notReached start) ++ kept) := by
    rw [← List.append_assoc, ← hwarnings]
    rfl
  have herrors : (Report.startingIn start true d).errors = Report.strictErrors d := rfl
  rw [hhead, herrors]
  unfold Report.strictErrors Report.repeatWarnings
  by_cases hs : d.states.names.Nodup
  · have hf : ¬ d.transitions.flags.Nodup := fun hf => hrepeat ⟨hs, hf⟩
    have hnonempty : ∀ f ∈ repeated d.transitions.flags, f ≠ "" := by
      intro f hmem
      obtain ⟨t, ht, rfl⟩ := List.mem_map.1 (mem_of_mem_repeated hmem)
      exact (isWord_of_isIdentifier (h.spelled.flag ht)).nonempty
    refine ⟨.duplicateFlags (repeated d.transitions.flags), [], ?_,
      .flags hs hf (areRepeats_repeated _), ?_⟩
    · simp [repeated_eq_nil_iff, hs, hf]
    · simp [repeated_eq_nil_iff, hs, hf, message_duplicateFlags hnonempty]
  · have hnonempty : ∀ n ∈ repeated d.states.names, n ≠ "" := by
      intro n hmem
      exact (isWord_of_isIdentifier (h.named n (mem_of_mem_repeated hmem))).nonempty
    refine ⟨.duplicateStates (repeated d.states.names),
      if repeated d.transitions.flags = [] then []
      else [.duplicateFlags (repeated d.transitions.flags)],
      ?_, .states hs (areRepeats_repeated _), ?_⟩
    · simp [repeated_eq_nil_iff, hs]
    · simp [repeated_eq_nil_iff, hs, message_duplicateStates hnonempty]

end Reviews

/-! ## Two runs of one request -/

/-- A request that is refused without strict mode is refused in the same way with
it. One that is met is met with it in the same way when no state and no flag is
repeated; else the fault tells the repeats, and its message is the first warning. -/
theorem strict_mode_only_filters (settings : Settings) (r : Request) :
    (∀ s, r.generate { settings with strict := false } = .error s →
      r.generate { settings with strict := true } = .error s) ∧
    ∀ g, r.generate { settings with strict := false } = .ok g →
      ((∃ g', r.generate { settings with strict := true } = .ok g') ↔
        g.definition.states.names.Nodup ∧ g.definition.transitions.flags.Nodup) ∧
      (∀ g', r.generate { settings with strict := true } = .ok g' → g' = g) ∧
      ∀ s, r.generate { settings with strict := true } = .error s →
        ∃ f, s = .fault f ∧ StrictObjection g.definition f ∧
          g.warnings.head? = some f.message := by
  cases hread : r.read.value with
  | error s =>
    rw [Request.generate_of_read_error hread, Request.generate_of_read_error hread]
    constructor
    · intro _ hs
      exact hs
    · intro g hg
      cases hg
  | ok d =>
    have hjoined := Request.isJoined_of_read hread
    obtain ⟨start, hstart⟩ := hjoined.spelled.exists_reset
    rw [Request.generate_of_read hread, Request.generate_of_read hread,
      Request.value_finish_of_clean _ { settings with strict := false } hstart rfl]
    constructor
    · intro s hs
      cases hs
    · intro g hg
      cases hg
      by_cases hnodup : d.states.names.Nodup ∧ d.transitions.flags.Nodup
      · have hsame := startingIn_of_nodup start hnodup.1 hnodup.2
        rw [Request.value_finish_of_clean _ { settings with strict := true } hstart
          (strictErrors_eq_nil_iff.2 hnodup)]
        dsimp only
        rw [hsame]
        refine ⟨⟨fun _ => hnodup, fun _ => ⟨_, rfl⟩⟩, ?_, ?_⟩
        · intro g' hg'
          exact (Except.ok.inj hg').symm
        · intro s hs
          cases hs
      · obtain ⟨f, fs, herrors, hobjection, hhead⟩ := exists_objection start hjoined hnodup
        rw [Request.value_finish_of_error _ { settings with strict := true } hstart herrors]
        refine ⟨⟨?_, fun h => absurd h hnodup⟩, ?_, ?_⟩
        · rintro ⟨g', hg'⟩
          cases hg'
        · intro g' hg'
          cases hg'
        · intro s hs
          exact ⟨f, (Except.error.inj hs).symm, hobjection, hhead⟩

/-- Of a repeated state and a repeated flag, the state is told first. -/
theorem a_repeated_state_is_told_before_a_repeated_flag :
    ∃ g, Request.generate {} (.fast (some "A;a;A")) = .ok g ∧
      Request.generate { strict := true } (.fast (some "A;a;A")) =
        .error (.fault (.duplicateStates ["A"])) ∧
      g.warnings.head? = some "Duplicate state names: A" := by
  have hstrict : Request.generate { strict := true } (.fast (some "A;a;A")) =
      .error (.fault (.duplicateStates ["A"])) := rfl
  refine ⟨_, rfl, hstrict, ?_⟩
  obtain ⟨f, hf, _, hhead⟩ :=
    ((strict_mode_only_filters {} (.fast (some "A;a;A"))).2 _ rfl).2.2 _ hstrict
  cases hf
  exact hhead

end ThreeBlock
