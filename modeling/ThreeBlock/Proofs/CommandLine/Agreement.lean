-- The commands agree on the lists of states that they take. Each of them reads the names first
-- and refuses them with the same fault; what comes later has exit codes of its own. So the
-- exit code tells the stage at which a run was refused, and the stage of the names is common
-- to all commands.
import ThreeBlock.Proofs.BreakOff
import ThreeBlock.Proofs.CommandLine.Contract
import ThreeBlock.Proofs.Reading.Faults
namespace ThreeBlock

/-! ## Machines that were read -/

namespace Request

/-- A machine that was read is written, or refused by strict mode. -/
theorem generate_or_strict {r : Request} {d : Definition} (h : r.read.value = .ok d)
    (settings : Settings) :
    (∃ g, r.generate settings = .ok g) ∨
      ∃ f, r.generate settings = .error (.fault f) ∧ settings.strict = true ∧ f.exitCode = 20 := by
  obtain ⟨start, hstart⟩ := (isJoined_of_read h).spelled.exists_reset
  rw [generate_of_read h]
  cases herrors : (Report.startingIn start settings.strict d).errors with
  | nil => exact .inl ⟨_, value_finish_of_clean _ _ hstart herrors⟩
  | cons f fs =>
    refine .inr ⟨f, value_finish_of_error _ _ hstart herrors, ?_⟩
    obtain ⟨hstrict, hf⟩ := Report.isStrict_of_mem_errors (herrors ▸ List.mem_cons_self)
    exact ⟨hstrict, Fault.exitCode_of_isStrict hf⟩

end Request

end ThreeBlock

namespace ThreeBlock.CommandLine

/-! ## Exit codes of runs -/

/-- A run tells a fault: in an envelope, or on the output for errors. -/
structure Tells (o : Options) (f : Fault) (e : Ended) : Prop where
  exitCode : e.exitCode = f.exitCode
  stdout : e.stdout = if o.json then Json.page (faultEnvelope f) else ""
  stderr : e.stderr = if o.json then "" else errorLine f.message

/-- The file that is named, if one is, can be written. -/
def CanWrite (s : Surroundings) (o : Options) : Prop :=
  ∀ target, o.output = some target → AtomicWrite.Writable s.toConditions s.files target

theorem note_generated {made : String} {settings : Settings} {first : Event} {withNote : Bool}
    {r : Request} {f : Fault}
    (h : (generated made settings first withNote r).value.verdict = .refused f) :
    (generated made settings first withNote r).value.note = "" := by
  have hvalue := Logged.Takes.value_eq (takes_generated made settings first withNote r)
  rw [hvalue] at h ⊢
  cases hgenerate : r.generate settings with
  | ok g =>
    rw [hgenerate] at h
    cases h
  | error stop => exact ite_self _

/-- What is refused has no note beside it. -/
theorem note_of_refused {made : String} {call : Call} {settings : Settings} {f : Fault}
    (h : (call.answer made settings).value.verdict = .refused f) :
    (call.answer made settings).value.note = "" := by
  cases call with
  | fast names => exact note_generated h
  | advanced names pairs showMapping => exact note_generated h
  | inline source =>
    unfold Call.answer at h ⊢
    dsimp only at h ⊢
    split
    · rfl
    · next text htext =>
      rw [htext] at h
      exact note_generated h
  | states | config => rfl

section Runs

variable {s : Surroundings} {args : List String} {o : Options} {settings : Settings} {call : Call}
  {r : Request}

theorem Reaches.tells (h : Reaches s args o settings call) {f : Fault}
    (hx : Gives settings call (.error f)) : Tells o f (run s args) := by
  have hverdict := verdict_of_gives s.made hx
  have hnote := note_of_refused hverdict
  have hdeliver : (deliver s o (call.answer s.made settings).value).value =
      if o.json then s.left f.exitCode (Json.page (faultEnvelope f)) ""
      else s.left f.exitCode "" (errorLine f.message) := by
    unfold deliver
    rw [hverdict]
    dsimp only [verdictOf]
    rw [hnote, String.empty_append]
    rfl
  have hleft := h.run_eq
  rw [hdeliver] at hleft
  cases hjson : o.json with
  | true =>
    rw [hjson, if_pos rfl] at hleft
    exact ⟨congrArg Left.exitCode hleft, (congrArg Left.stdout hleft).trans (if_pos hjson).symm,
      (congrArg Left.stderr hleft).trans (if_pos hjson).symm⟩
  | false =>
    have hplain : ¬ o.json = true := by simp [hjson]
    rw [hjson, if_neg Bool.false_ne_true] at hleft
    exact ⟨congrArg Left.exitCode hleft, (congrArg Left.stdout hleft).trans (if_neg hplain).symm,
      (congrArg Left.stderr hleft).trans (if_neg hplain).symm⟩

theorem Reaches.exitCode_of_work (h : Reaches s args o settings call) {w : Work}
    (hw : Gives settings call (.ok w)) :
    (run s args).exitCode = 0 ∨ ¬ CanWrite s o ∧ (run s args).exitCode = unwrittenCode := by
  have hends : Ends s o (.ok (w.text o.json)) (run s args).toLeft := h.ends hw
  cases hends with
  | shown _ hcode => exact .inl hcode
  | written _ _ hcode => exact .inl hcode
  | unwritten houtput hnot hcode => exact .inr ⟨fun hcan => hnot (hcan _ houtput), hcode⟩

theorem Reaches.exitCode_of_abort (h : Reaches s args o settings call) (hasks : Asks call r)
    {a : Abort} (habort : r.generate settings = .error (.abort a)) :
    (run s args).exitCode = failureCode := by
  have hverdict : (call.answer s.made settings).value.verdict = .failed a.message := by
    rw [verdict_of_asks s.made hasks, habort]
    rfl
  refine (congrArg Left.exitCode h.run_eq).trans ?_
  unfold deliver
  rw [hverdict]
  rfl

/-- A run whose request was read ends well, or strict mode refuses it. -/
theorem Reaches.exitCode_of_read (h : Reaches s args o settings call) (hasks : Asks call r)
    {d : Definition} (hread : r.read.value = .ok d) (hwrite : CanWrite s o) :
    (run s args).exitCode = 0 ∨ settings.strict = true ∧ (run s args).exitCode = 20 := by
  rcases Request.generate_or_strict hread settings with ⟨g, hg⟩ | ⟨f, hf, hstrict, hcode⟩
  · exact .inl ((h.exitCode_of_work (.machine hasks hg)).resolve_right fun hn => hn.1 hwrite)
  · exact .inr ⟨hstrict, (h.tells (.refused hasks hf)).exitCode.trans hcode⟩

/-- What becomes of pairs, once the names are read. -/
theorem Reaches.exitCode_of_pairs {names pairs : String} {showMapping : Bool}
    (h : Reaches s args o settings (.advanced names pairs showMapping)) {states : StateList}
    (hread : StateList.read names = .ok states) (hwrite : CanWrite s o) :
    (run s args).exitCode = 0 ∨ (run s args).exitCode = 11 ∨
      (settings.strict = true ∧ (run s args).exitCode = 20) ∨
      ((∃ digits, PairsBreakOff pairs digits) ∧ (run s args).exitCode = failureCode) := by
  have hasks : Asks (.advanced names pairs showMapping) _ := .advanced names pairs showMapping
  have hraw : StateList.read ((some names).getD "") = .ok states := hread
  have hvalue := Request.value_advanced_of_states hraw (some pairs)
  cases hpairs : TransitionSet.read pairs states with
  | ok ts =>
    rw [Option.getD_some, hpairs] at hvalue
    rcases h.exitCode_of_read hasks hvalue hwrite with hcode | hcode
    · exact .inl hcode
    · exact .inr (.inr (.inl hcode))
  | error stop =>
    rw [Option.getD_some, hpairs] at hvalue
    have hgenerate := Request.generate_of_read_error hvalue settings
    cases stop with
    | fault f =>
      have htold := (h.tells (.refused hasks hgenerate)).exitCode
      have hcode : f.exitCode = 11 := by
        rcases TransitionSet.fault_of_read hpairs with rfl | htoken
        · rfl
        · exact Fault.exitCode_of_isOfToken htoken
      exact .inr (.inl (htold.trans hcode))
    | abort a =>
      obtain ⟨digits, _, hbreak⟩ := TransitionSet.read_eq_abort_iff.1 hpairs
      exact .inr (.inr (.inr ⟨⟨digits, hbreak⟩, h.exitCode_of_abort hasks hgenerate⟩))

end Runs

/-! ## One list of states -/

/-- How three runs agree on a list of states: one that shows the list, one that makes its ring,
and one that takes pairs of its positions as well. -/
structure AgreeOnStates (strict : Bool) (spec : String) (o₁ o₂ o₃ : Options)
    (listed ringed paired : Ended) : Prop where
  ring_iff : ringed.exitCode = 10 ↔ listed.exitCode = 10
  pairs_iff : paired.exitCode = 10 ↔ ringed.exitCode = 10
  told : listed.exitCode = 10 →
    ∃ f, Tells o₁ f listed ∧ Tells o₂ f ringed ∧ Tells o₃ f paired
  list : listed.exitCode ≠ 10 → listed.exitCode = 0
  ring : listed.exitCode ≠ 10 →
    ringed.exitCode = 0 ∨ strict = true ∧ ringed.exitCode = 20
  pairs : listed.exitCode ≠ 10 → (∀ digits, ¬ PairsBreakOff spec digits) →
    paired.exitCode = 0 ∨ paired.exitCode = 11 ∨ strict = true ∧ paired.exitCode = 20
  lenient : strict = false → (ringed.exitCode = 0 ↔ listed.exitCode = 0)

section Agreement

variable {settings : Settings} {names spec : String} {showMapping : Bool}
  {s₁ s₂ s₃ : Surroundings} {args₁ args₂ args₃ : List String} {o₁ o₂ o₃ : Options}
  (h₁ : Reaches s₁ args₁ o₁ settings (.states names))
  (h₂ : Reaches s₂ args₂ o₂ settings (.fast names))
  (h₃ : Reaches s₃ args₃ o₃ settings (.advanced names spec showMapping))
include h₁ h₂ h₃

/-- A list that is refused is refused by all, with one fault. -/
theorem agreeOnStates_of_fault {f : Fault} (hread : StateList.read names = .error f) :
    AgreeOnStates settings.strict spec o₁ o₂ o₃ (run s₁ args₁) (run s₂ args₂) (run s₃ args₃) := by
  have hraw : StateList.read ((some names).getD "") = .error f := hread
  obtain ⟨hring, hpairs⟩ := Request.generate_of_read_states_error hraw settings
  have ht₁ := h₁.tells (.unlisted hread)
  have ht₂ := h₂.tells (.refused (.fast names) hring)
  have ht₃ := h₃.tells (.refused (.advanced names spec showMapping) (hpairs (some spec)))
  have hcode := Fault.exitCode_of_isOfNames (isOfNames_of_ofNames hread)
  have hc₁ := ht₁.exitCode.trans hcode
  have hc₂ := ht₂.exitCode.trans hcode
  have hc₃ := ht₃.exitCode.trans hcode
  exact {
    ring_iff := by rw [hc₁, hc₂]
    pairs_iff := by rw [hc₂, hc₃]
    told := fun _ => ⟨f, ht₁, ht₂, ht₃⟩
    list := fun hne => absurd hc₁ hne
    ring := fun hne => absurd hc₁ hne
    pairs := fun hne => absurd hc₁ hne
    lenient := fun _ => by rw [hc₁, hc₂] }

/-- A list that is read is taken by all. -/
theorem agreeOnStates_of_states {states : StateList} (hread : StateList.read names = .ok states)
    (hwrite₁ : CanWrite s₁ o₁) (hwrite₂ : CanWrite s₂ o₂) (hwrite₃ : CanWrite s₃ o₃) :
    AgreeOnStates settings.strict spec o₁ o₂ o₃ (run s₁ args₁) (run s₂ args₂) (run s₃ args₃) := by
  have hc₁ := (h₁.exitCode_of_work (.list hread)).resolve_right fun hn => hn.1 hwrite₁
  have hvalue := Request.value_fast (some names)
  rw [Option.getD_some, hread] at hvalue
  have hc₂ := h₂.exitCode_of_read (.fast names) hvalue hwrite₂
  have hc₃ := h₃.exitCode_of_pairs hread hwrite₃
  unfold failureCode at hc₃
  exact {
    ring_iff := by omega
    pairs_iff := by omega
    told := fun hten => by omega
    list := fun _ => hc₁
    ring := fun _ => hc₂
    pairs := by
      intro _ hshort
      rcases hc₃ with hcode | hcode | hcode | ⟨⟨digits, hbreak⟩, _⟩
      · exact .inl hcode
      · exact .inr (.inl hcode)
      · exact .inr (.inr hcode)
      · exact absurd hbreak (hshort digits)
    lenient := by
      intro hlenient
      have hc₂ := hc₂.resolve_right fun hstrict => by simp [hlenient] at hstrict
      rw [hc₁, hc₂] }

end Agreement

/-! ## Declarations -/

/-- The names that a source declares. Its line breaks are made alike first. -/
def sourceNames (text : List Char) : List String :=
  declaredNames (String.ofList (Text.unifyBreaks text))

section Declarations

variable {s : Surroundings} {args : List String} {o : Options} {settings : Settings}
  {source : Source} {text : List Char}
  (h : Reaches s args o settings (.inline source)) (htext : source.text = .ok text)
include h htext

/-- Declarations whose names are refused tell the fault of the names. -/
theorem tells_of_names {f : Fault}
    (hnames : StateList.ofNames (sourceNames text) = .error f) : Tells o f (run s args) := by
  have hvalue : (Request.read (.inline (some (String.ofList (Text.unifyBreaks text))))).value =
      .error (.fault f) := by
    rw [Request.value_inline, Option.getD_some, readDeclarations_of_ofNames hnames]
    rfl
  exact h.tells (.refused (.inline htext) (Request.generate_of_read_error hvalue settings))

/-- No token makes a run with good names end as if the names were refused. -/
theorem exitCode_ne_of_names {states : StateList}
    (hnames : StateList.ofNames (sourceNames text) = .ok states) : (run s args).exitCode ≠ 10 := by
  have hasks := Asks.inline htext
  have hvalue := Request.value_inline (some (String.ofList (Text.unifyBreaks text)))
  cases hread : readDeclarations (String.ofList (Text.unifyBreaks text)) with
  | ok declared =>
    rw [Option.getD_some, hread] at hvalue
    rcases Request.generate_or_strict hvalue settings with ⟨g, hg⟩ | ⟨f, hf, _, hcode⟩
    · have hends := h.exitCode_of_work (.machine hasks hg)
      unfold unwrittenCode at hends
      omega
    · have htold := (h.tells (.refused hasks hf)).exitCode
      omega
  | error stop =>
    rw [Option.getD_some, hread] at hvalue
    have hgenerate := Request.generate_of_read_error hvalue settings
    cases stop with
    | fault f =>
      have htold := (h.tells (.refused hasks hgenerate)).exitCode
      have hcode := Fault.exitCode_of_isOfToken (isOfToken_of_readDeclarations hnames hread)
      omega
    | abort a =>
      rw [h.exitCode_of_abort hasks hgenerate]
      decide

end Declarations

/-- The commands agree on the lists of states that they take. Under the same settings three runs
with the same names are refused for them alike, with one fault; when they are not, each ends
well or is refused for what comes later. A run with declarations is refused for its names just
when the first fields of its lines make no list, whatever else the lines hold. -/
theorem the_commands_take_the_same_lists (settings : Settings) :
    (∀ {names spec : String} {showMapping : Bool} {s₁ s₂ s₃ : Surroundings}
      {args₁ args₂ args₃ : List String} {o₁ o₂ o₃ : Options},
      Reaches s₁ args₁ o₁ settings (.states names) →
      Reaches s₂ args₂ o₂ settings (.fast names) →
      Reaches s₃ args₃ o₃ settings (.advanced names spec showMapping) →
      CanWrite s₁ o₁ → CanWrite s₂ o₂ → CanWrite s₃ o₃ →
      AgreeOnStates settings.strict spec o₁ o₂ o₃ (run s₁ args₁) (run s₂ args₂)
        (run s₃ args₃)) ∧
    ∀ {s : Surroundings} {args : List String} {o : Options} {source : Source} {text : List Char},
      Reaches s args o settings (.inline source) → source.text = .ok text →
      ((run s args).exitCode = 10 ↔ ∃ f, StateList.ofNames (sourceNames text) = .error f) ∧
        ∀ f, StateList.ofNames (sourceNames text) = .error f → Tells o f (run s args) := by
  constructor
  · intro names _ _ _ _ _ _ _ _ _ _ _ h₁ h₂ h₃ hwrite₁ hwrite₂ hwrite₃
    cases hread : StateList.read names with
    | error f => exact agreeOnStates_of_fault h₁ h₂ h₃ hread
    | ok states => exact agreeOnStates_of_states h₁ h₂ h₃ hread hwrite₁ hwrite₂ hwrite₃
  · intro _ _ _ _ text h htext
    refine ⟨⟨?_, ?_⟩, fun f hf => tells_of_names h htext hf⟩
    · intro hten
      cases hnames : StateList.ofNames (sourceNames text) with
      | error f => exact ⟨f, rfl⟩
      | ok states => exact absurd hten (exitCode_ne_of_names h htext hnames)
    · rintro ⟨f, hf⟩
      have hcode := Fault.exitCode_of_isOfNames (isOfNames_of_ofNames hf)
      exact (tells_of_names h htext hf).exitCode.trans hcode

/-- Two names are taken by all, also when a pair leads to a third. Among declarations a name
that starts with a digit is refused, and the bad token in front of it is not looked at. -/
theorem two_names_are_taken_by_all :
    (run { tags := [] } ["fast", "A;B"]).exitCode = 0 ∧
      (run { tags := [] } ["advanced", "A;B", "1-3"]).exitCode ≠ 10 ∧
      (run { tags := [], stdin := Text.utf8Bytes "A;1-9\n2b" } ["inline"]).exitCode = 10 := by
  have hlist : Reaches { tags := [] } ["states", "A;B"] {} {} (.states "A;B") :=
    ⟨⟨⟨{}, .states, ["A;B"]⟩, by decide +kernel, rfl, by decide +kernel⟩, rfl⟩
  have hring : Reaches { tags := [] } ["fast", "A;B"] {} {} (.fast "A;B") :=
    ⟨⟨⟨{}, .fast, ["A;B"]⟩, by decide +kernel, rfl, by decide +kernel⟩, rfl⟩
  have hpairs : Reaches { tags := [] } ["advanced", "A;B", "1-3"] {} {}
      (.advanced "A;B" "1-3" false) :=
    ⟨⟨⟨{}, .advanced, ["A;B", "1-3"]⟩, by decide +kernel, rfl, by decide +kernel⟩, rfl⟩
  have hlines : Reaches { tags := [], stdin := Text.utf8Bytes "A;1-9\n2b" } ["inline"] {} {}
      (.inline { name := "<stdin>", bytes := Text.utf8Bytes "A;1-9\n2b" }) :=
    ⟨⟨⟨{}, .inline, []⟩, by decide +kernel, rfl, by decide +kernel⟩, rfl⟩
  have hwrite : ∀ s, CanWrite s {} := fun _ _ hnone => by cases hnone
  have hzero : (run { tags := [] } ["states", "A;B"]).exitCode = 0 := by decide +kernel
  have htext : Source.text { name := "<stdin>", bytes := Text.utf8Bytes "A;1-9\n2b" } =
      .ok "A;1-9\n2b".toList := by
    decide +kernel
  obtain ⟨hagree, hdeclared⟩ := the_commands_take_the_same_lists {}
  have hthree := hagree hlist hring hpairs (hwrite _) (hwrite _) (hwrite _)
  refine ⟨(hthree.lenient rfl).2 hzero, ?_, ?_⟩
  · intro hten
    have hsame := hthree.ring_iff.1 (hthree.pairs_iff.1 hten)
    omega
  · exact (hdeclared hlines htext).1.2 ⟨.invalidIdentifiers ["2b"], by decide +kernel⟩

end ThreeBlock.CommandLine
