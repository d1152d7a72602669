-- The size of a result. A result is a page of simple characters, whether it is told in an
-- envelope or as it is. So the number of characters that a run logs for a file is the number of
-- bytes that stand in the file.
import ThreeBlock.Proofs.Acceptance
import ThreeBlock.Proofs.CommandLine.Contract
import ThreeBlock.Proofs.Hdl.Characters
import ThreeBlock.Proofs.Json
namespace ThreeBlock.CommandLine

/-! ## Pages -/

/-- What a call comes to is told in a page. -/
theorem isPage_of_gives {settings : Settings} {call : Call} {w : Work}
    (h : Gives settings call (.ok w)) (json : Bool) : Text.IsPage (w.text json) := by
  cases json with
  | true => cases w <;> exact Json.isPage_page _
  | false =>
    cases h with
    | machine _ hgenerate =>
      obtain ⟨start, haccepted⟩ := exists_accepted hgenerate
      have hcode := haccepted.joined.spelled.isPage_text haccepted.reset
      rw [Work.text, if_neg Bool.false_ne_true, haccepted.code]
      exact hcode _ _
    | list hread =>
      obtain ⟨_, hnamed, rfl⟩ := StateList.ofNames_eq_ok_iff.1 hread
      exact Hdl.isPage_mapping hnamed

/-! ## Files -/

/-- A text stands in the file that was named, and the last event tells the size of that file. -/
structure IsFiled (e : Ended) (target : Path) (text : String) (l : Place) (bytes : Text.Bytes) :
    Prop where
  exitCode : e.exitCode = 0
  located : e.files.locate target = .ok l
  held : e.files.held? l = some bytes
  spelled : bytes = Text.utf8Bytes text
  told : ∃ c, e.log.told.getLast? = some (c, told .info "output_written"
    [("path", .text target.text), ("bytes", .int bytes.length)])

section Files

variable {s : Surroundings} {o : Options} {a : Answer} {target : Path} {note text : String}

/-- A result whose exit code is that of success was written. -/
theorem failure_of_exitCode (h : (toFile s note target text).value.exitCode = 0) :
    (writing s target text).failure = none := by
  cases hfailure : (writing s target text).failure with
  | none => rfl
  | some reason =>
    rw [(takes_toFile_unwritten note hfailure).value_eq] at h
    cases h

theorem deliver_of_made {p : Product} (hverdict : a.verdict = .made p)
    (houtput : o.output = some target) :
    deliver s o a = toFile s a.note target (p.text o.json) := by
  unfold deliver
  rw [hverdict, houtput]

theorem getLast?_told_follow (log : Log) (steps : List LogStep) (e e' : Event) :
    (log.follow (steps ++ [.tell e, .tell e'])).told.getLast? =
      some (LogStep.behind log.context steps, e') := by
  rw [Log.follow_eq, LogStep.toldBy_append]
  simp [LogStep.toldBy]

/-- A run that wrote its work to a file tells the size in its last event. -/
theorem Reaches.told {args : List String} {settings : Settings} {call : Call} {w : Work}
    (h : Reaches s args o settings call) (hw : Gives settings call (.ok w))
    (houtput : o.output = some target) (hcode : (run s args).toLeft.exitCode = 0) :
    ∃ c, (run s args).log.told.getLast? = some (c, writtenEvent target (w.text o.json)) := by
  have hdeliver := deliver_of_made (s := s) (verdict_of_gives s.made hw) houtput
  rw [w.text_product] at hdeliver
  rw [h.run_eq, hdeliver] at hcode
  have hwritten := takes_toFile_written (call.answer s.made settings).value.note
    (failure_of_exitCode hcode)
  rw [← hdeliver] at hwritten
  obtain ⟨steps, hanswer⟩ := isBlind_answer s.made settings call
  have hwork : (work s o settings call).Takes _ _ := hanswer.bind hwritten
  rw [h.run_of_takes hwork]
  exact ⟨_, getLast?_told_follow _ steps _ _⟩

end Files

/-- A result is a page, in an envelope or as it is. With no file named the page goes to the
standard output; else it goes to the file, with the number of its bytes in the last event, or
the file could not be written. -/
theorem a_result_is_a_page_of_the_size_logged {s : Surroundings} {args : List String}
    {o : Options} {settings : Settings} {call : Call} {w : Work}
    (h : Reaches s args o settings call) (hw : Gives settings call (.ok w)) :
    Text.IsPage (w.text o.json) ∧
      (o.output = none → (run s args).exitCode = 0 ∧ (run s args).stdout = w.text o.json) ∧
      ∀ target, o.output = some target →
        (AtomicWrite.Writable s.toConditions s.files target ∧
          ∃ l bytes, IsFiled (run s args) target (w.text o.json) l bytes) ∨
        (¬ AtomicWrite.Writable s.toConditions s.files target ∧ (run s args).exitCode = unwrittenCode) := by
  have hpage := isPage_of_gives hw o.json
  have hends : Ends s o (.ok (w.text o.json)) (run s args).toLeft := h.ends hw
  refine ⟨hpage, ?_, ?_⟩
  · intro hnone
    cases hends with
    | shown _ hcode hstdout _ => exact ⟨hcode, hstdout⟩
    | written hsome => simp [hnone] at hsome
    | unwritten hsome => simp [hnone] at hsome
  · intro target htarget
    cases hends with
    | shown hnone => simp [htarget] at hnone
    | @written _ _ _ l hsome hwritable hcode _ hlocated hheld =>
      obtain rfl := Option.some.inj (htarget.symm.trans hsome)
      obtain ⟨c, htold⟩ := h.told hw htarget hcode
      refine .inl ⟨hwritable, l, _, hcode, hlocated, (hheld l).trans (if_pos rfl), rfl, c, ?_⟩
      rw [htold, Text.length_utf8Bytes hpage.simple]
      rfl
    | unwritten hsome hnot hcode =>
      obtain rfl := Option.some.inj (htarget.symm.trans hsome)
      exact .inr ⟨hnot, hcode⟩

/-- The list of two states is ten bytes long, in the file and in the log. -/
theorem two_states_are_ten_bytes :
    ∃ l bytes, IsFiled (run roomy ["-o", "rtl/fsm.sv", "states", "A;B"])
      ⟨"", ["rtl", "fsm.sv"]⟩ "1: A\n2: B\n" l bytes ∧ bytes.length = 10 := by
  have hreaches : Reaches roomy ["-o", "rtl/fsm.sv", "states", "A;B"]
      { output := some ⟨"", ["rtl", "fsm.sv"]⟩ } {} (.states "A;B") :=
    ⟨⟨_, read_states_to_file, rfl, by decide +kernel⟩, rfl⟩
  obtain ⟨_, _, hwritten⟩ := a_result_is_a_page_of_the_size_logged hreaches (.list read_two_states)
  rcases hwritten _ rfl with ⟨_, l, bytes, hfiled⟩ | ⟨hnot, _⟩
  · refine ⟨l, bytes, hfiled, ?_⟩
    rw [hfiled.spelled]
    rfl
  · exact absurd writable_roomy hnot

end ThreeBlock.CommandLine
