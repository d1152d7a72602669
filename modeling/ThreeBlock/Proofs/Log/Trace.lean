-- The trace that a request leaves in a log that keeps everything. It opens with the
-- event that takes the request up and closes with the one that tells its outcome; in
-- between, each part of the request tells how it went, and tells it once.
import ThreeBlock.Proofs.Acceptance
import ThreeBlock.Proofs.Log.Readings
import ThreeBlock.Proofs.Log.Session
namespace ThreeBlock

/-! ## Traces -/

/-- The names under which a review tells what it found. -/
def reviewNames : List String :=
  ["strict_validation_failed", "validation_warnings", "validation_passed"]

/-- How many events have one of some names. -/
def timesTold (names told : List String) : Nat := told.countP (· ∈ names)

/-- Whether an outcome is a fault of some kind. -/
def failsWith (kind : Fault → Bool) : Except Fault Generation → Bool
  | .ok _ => false
  | .error f => kind f

/-- A line that shows a fault. -/
structure Line.Shows (l : Line) (f : Fault) : Prop where
  kind : l.lookup "error" = some (.text f.kind)
  message : l.lookup "reason" = some (.text f.message)

/-- A line that tells an outcome, with the numbers of the machine or with the fault. -/
inductive Line.Tells (l : Line) : Except Fault Generation → Prop
  | completed {g : Generation} : l.event = "generation_completed" →
      l.lookup "states" = some (.int g.definition.states.size) →
      l.lookup "transitions" = some (.int g.definition.transitions.size) →
      l.lookup "warnings" = some (.int g.warnings.length) → l.Tells (.ok g)
  | rejected {f : Fault} : l.event = "generation_rejected" → l.Shows f → l.Tells (.error f)

/-- The trace of a request with an outcome. -/
structure Traced (p : Put) (x : Except Fault Generation) (lines : List Line) : Prop where
  own : ∀ l ∈ lines, l.lookup "request_id" = some (.text p.name) ∧
    l.lookup "mode" = some (.text p.request.mode)
  first : (lines.map Line.event).head? = some "generation_started"
  started : timesTold ["generation_started"] (lines.map Line.event) = 1
  last : ∃ l, lines.getLast? = some l ∧ l.Tells x
  ended : timesTold ["generation_completed", "generation_rejected"] (lines.map Line.event) = 1
  rendered : timesTold ["render_completed"] (lines.map Line.event) = if x.isOk then 1 else 0
  reviewed : timesTold reviewNames (lines.map Line.event) =
    if p.request.read.value.isOk then 1 else 0
  objected : timesTold ["strict_validation_failed"] (lines.map Line.event) =
    if failsWith Fault.isStrict x then 1 else 0
  refused : timesTold refusalNames (lines.map Line.event) =
    if failsWith Fault.isRefusal x then 1 else 0
  refusal : ∀ l ∈ lines, l.event ∈ refusalNames → ∃ f, x = .error f ∧ l.Shows f

/-! ## The events of a request -/

theorem Report.name_event_of_errors {r : Report} (h : r.errors ≠ []) (states : Nat) :
    (r.event states).name = "strict_validation_failed" := by
  rw [event, if_pos h]

theorem Report.name_event_of_clean {r : Report} (h : r.errors = []) (states : Nat) :
    (r.event states).name = "validation_warnings" ∨ (r.event states).name = "validation_passed" := by
  rw [event, if_neg (not_not.2 h)]
  split
  · exact Or.inl rfl
  · exact Or.inr rfl

/-- The log of a request: the reading, then the review, then the text. -/
inductive RequestLog (r : Request) : Except Fault Generation → List Event → Prop
  | unread {f : Fault} : r.read.value = .error (.fault f) →
      RequestLog r (.error f) (r.started :: (r.read.events ++ [Request.rejected f]))
  | objected {d : Definition} {review : Event} {f : Fault} : r.read.value = .ok d →
      review.name = "strict_validation_failed" → f.isStrict = true →
      RequestLog r (.error f) (r.started :: (r.read.events ++ [review, Request.rejected f]))
  | met {g : Generation} {review render : Event} : r.read.value = .ok g.definition →
      review.name = "validation_warnings" ∨ review.name = "validation_passed" →
      render.name = "render_completed" →
      RequestLog r (.ok g) (r.started :: (r.read.events ++ [review, render,
        Request.completed (.text r.mode) (.int g.definition.states.size)
          (.int g.definition.transitions.size) (.int g.warnings.length)]))

namespace Request

theorem events_of_read_error {r : Request} {f : Fault} (h : r.read.value = .error (.fault f))
    (settings : Settings) :
    (r.run settings).events = r.started :: (r.read.events ++ [rejected f]) := by
  rw [(takes_run_error settings h).events_eq, (takes_stopped_fault f).events_eq]

theorem events_of_read {r : Request} {d : Definition} (h : r.read.value = .ok d)
    (settings : Settings) :
    (r.run settings).events =
      r.started :: (r.read.events ++ (finish r.mode settings d).events) :=
  (takes_run settings h).events_eq

section Finish

variable {d : Definition} {start : String}

theorem events_finish_of_error (mode : String) (settings : Settings)
    (hstart : d.states.reset? = some start) {f : Fault} {fs : List Fault}
    (herror : (Report.startingIn start settings.strict d).errors = f :: fs) :
    (finish mode settings d).events =
      [(Report.startingIn start settings.strict d).event d.states.size, rejected f] :=
  (takes_finish_error (Report.review_eq_ok hstart _) herror).events_eq

theorem events_finish_of_clean (mode : String) (settings : Settings)
    (hstart : d.states.reset? = some start)
    (hclean : (Report.startingIn start settings.strict d).errors = []) :
    ∃ code, (finish mode settings d).events =
      [(Report.startingIn start settings.strict d).event d.states.size,
        Hdl.rendered d.flavor d.states d.transitions code,
        completed (.text mode) (.int d.states.size) (.int d.transitions.size)
          (.int (Report.startingIn start settings.strict d).warnings.length)] := by
  have hrender := Hdl.render_eq_ok hstart d.flavor settings.stateMap d.transitions
  exact ⟨_, (takes_finish (Report.review_eq_ok hstart _) hclean (takes_write hrender)).events_eq⟩

end Finish

/-- The log of a request that returns. -/
theorem requestLog {r : Request} {settings : Settings} {x : Except Fault Generation}
    (h : r.generate settings = x.mapError Stop.fault) :
    RequestLog r x (r.run settings).events := by
  cases hread : r.read.value with
  | error s =>
    rw [generate_of_read_error hread] at h
    obtain ⟨f, rfl, rfl⟩ := mapError_eq_error_iff.1 h.symm
    rw [events_of_read_error hread]
    exact .unread hread
  | ok d =>
    obtain ⟨start, hstart⟩ := (isJoined_of_read hread).spelled.exists_reset
    rw [generate_of_read hread] at h
    rw [events_of_read hread]
    cases herrors : (Report.startingIn start settings.strict d).errors with
    | cons f fs =>
      rw [value_finish_of_error _ _ hstart herrors] at h
      obtain rfl : .error f = x := eq_of_mapError_fault h
      rw [events_finish_of_error _ _ hstart herrors]
      exact .objected hread (Report.name_event_of_errors (by simp [herrors]) _)
        (Report.isStrict_of_mem_errors (herrors ▸ List.mem_cons_self)).2
    | nil =>
      rw [value_finish_of_clean _ _ hstart herrors] at h
      obtain rfl := mapError_eq_ok_iff.1 h.symm
      obtain ⟨code, hevents⟩ := events_finish_of_clean r.mode settings hstart herrors
      rw [hevents]
      exact .met hread (Report.name_event_of_clean herrors _) rfl

end Request

/-! ## Counting -/

section Counts

variable {names : List String}

theorem timesTold_nil : timesTold names [] = 0 := rfl

theorem timesTold_cons (name : String) (told : List String) :
    timesTold names (name :: told) = (if name ∈ names then 1 else 0) + timesTold names told := by
  simp [timesTold, List.countP_cons, Nat.add_comm]

theorem timesTold_append (told later : List String) :
    timesTold names (told ++ later) = timesTold names told + timesTold names later :=
  List.countP_append ..

theorem timesTold_progress {es : List Event} (hes : ∀ e ∈ es, e.name ∈ progressNames)
    (hnames : ∀ name ∈ progressNames, name ∉ names) : timesTold names (es.map Event.name) = 0 := by
  apply List.countP_eq_zero.2
  intro name hname
  obtain ⟨e, he, rfl⟩ := List.mem_map.1 hname
  simpa using hnames _ (hes e he)

end Counts

namespace ReadLog

variable {α : Type} {x : Except Stop α} {es : List Event}

theorem timesTold_eq_zero (h : ReadLog x es) {names : List String}
    (hnames : ∀ name ∈ progressNames ++ refusalNames, name ∉ names) :
    timesTold names (es.map Event.name) = 0 := by
  have hprogress : ∀ name ∈ progressNames, name ∉ names := fun name hname =>
    hnames name (List.mem_append_left _ hname)
  cases h with
  | quiet hes _ => exact timesTold_progress hes hprogress
  | refused hes _ _ hname _ =>
    have hother := hnames _ (List.mem_append_right _ hname)
    rw [List.map_append, timesTold_append, timesTold_progress hes hprogress, List.map_singleton,
      timesTold_cons, if_neg hother, timesTold_nil]

theorem timesTold_refusals_of_ok {a : α} (h : ReadLog (.ok a) es) :
    timesTold refusalNames (es.map Event.name) = 0 := by
  cases h with
  | quiet hes _ => exact timesTold_progress hes (by decide)
  | refused _ hx => cases hx

theorem timesTold_refusals_of_error {f : Fault} (h : ReadLog (.error (.fault f) : Except Stop α) es) :
    timesTold refusalNames (es.map Event.name) = if f.isRefusal then 1 else 0 := by
  cases h with
  | quiet hes hx =>
    obtain rfl := hx f rfl
    exact timesTold_progress hes (by decide)
  | refused hes hx hfault hname _ =>
    cases hx
    rw [List.map_append, timesTold_append, timesTold_progress hes (by decide), List.map_singleton,
      timesTold_cons, if_pos hname, timesTold_nil, if_pos hfault]

theorem shows_of_mem (h : ReadLog x es) {e : Event} (he : e ∈ es) (hname : e.name ∈ refusalNames) :
    ∃ f, x = .error (.fault f) ∧ e.Shows f := by
  have hother : ∀ name ∈ progressNames, name ∉ refusalNames := by decide
  cases h with
  | quiet hes _ => exact absurd hname (hother _ (hes e he))
  | refused hes hx _ _ hshows =>
    rcases List.mem_append.1 he with he | he
    · exact absurd hname (hother _ (hes e he))
    · obtain rfl := List.mem_singleton.1 he
      exact ⟨_, hx, hshows⟩

end ReadLog

theorem ReadLog.isStrict_of_error {α : Type} {f : Fault} {es : List Event}
    (h : ReadLog (.error (.fault f) : Except Stop α) es) : f.isStrict = false := by
  cases h with
  | quiet _ hx =>
    obtain rfl := hx f rfl
    rfl
  | refused _ hx hfault =>
    cases hx
    exact Fault.isStrict_of_isRefusal hfault

/-- What a request tells behind its reading. -/
inductive Closing (r : Request) : Except Fault Generation → List String → Prop
  | unread {f : Fault} : r.read.value = .error (.fault f) →
      Closing r (.error f) ["generation_rejected"]
  | objected {d : Definition} {f : Fault} : r.read.value = .ok d → f.isStrict = true →
      Closing r (.error f) ["strict_validation_failed", "generation_rejected"]
  | warned {g : Generation} : r.read.value = .ok g.definition →
      Closing r (.ok g) ["validation_warnings", "render_completed", "generation_completed"]
  | passed {g : Generation} : r.read.value = .ok g.definition →
      Closing r (.ok g) ["validation_passed", "render_completed", "generation_completed"]

theorem RequestLog.closing {r : Request} {x : Except Fault Generation} {es : List Event}
    (h : RequestLog r x es) : ∃ closing, Closing r x closing ∧
      es.map Event.name = "generation_started" :: (r.read.events.map Event.name ++ closing) := by
  cases h with
  | unread hread => exact ⟨_, .unread hread, by simp [Request.started, Request.rejected]⟩
  | objected hread hreview hstrict =>
    exact ⟨_, .objected hread hstrict, by simp [Request.started, Request.rejected, hreview]⟩
  | met hread hreview hrender =>
    rcases hreview with hreview | hreview
    · exact ⟨_, .warned hread, by simp [Request.started, Request.completed, hreview, hrender]⟩
    · exact ⟨_, .passed hread, by simp [Request.started, Request.completed, hreview, hrender]⟩

namespace Closing

variable {r : Request} {x : Except Fault Generation} {closing : List String}

theorem timesTold_ended (h : Closing r x closing) :
    timesTold ["generation_completed", "generation_rejected"] closing = 1 := by
  cases h <;> decide

theorem timesTold_rendered (h : Closing r x closing) :
    timesTold ["render_completed"] closing = if x.isOk then 1 else 0 := by
  cases h <;> rfl

theorem timesTold_reviewed (h : Closing r x closing) :
    timesTold reviewNames closing = if r.read.value.isOk then 1 else 0 := by
  cases h with
  | unread hread => rw [hread]; rfl
  | objected hread _ => rw [hread]; rfl
  | warned hread => rw [hread]; rfl
  | passed hread => rw [hread]; rfl

theorem timesTold_objected (h : Closing r x closing) :
    timesTold ["strict_validation_failed"] closing =
      if failsWith Fault.isStrict x then 1 else 0 := by
  cases h with
  | unread hread =>
    have hlog := r.readLog
    rw [hread] at hlog
    rw [failsWith, hlog.isStrict_of_error]
    rfl
  | objected _ hstrict =>
    rw [failsWith, hstrict]
    rfl
  | warned _ => rfl
  | passed _ => rfl

/-- What is refused is refused by the reading. -/
theorem timesTold_refused (h : Closing r x closing) :
    timesTold refusalNames (r.read.events.map Event.name) =
      if failsWith Fault.isRefusal x then 1 else 0 := by
  have hlog := r.readLog
  cases h with
  | unread hread =>
    rw [hread] at hlog
    exact hlog.timesTold_refusals_of_error
  | @objected _ f hread hstrict =>
    rw [hread] at hlog
    have hrefusal : ¬ f.isRefusal = true := fun h => by
      rw [Fault.isStrict_of_isRefusal h] at hstrict
      cases hstrict
    rw [hlog.timesTold_refusals_of_ok, failsWith, if_neg hrefusal]
  | warned hread =>
    rw [hread] at hlog
    exact hlog.timesTold_refusals_of_ok
  | passed hread =>
    rw [hread] at hlog
    exact hlog.timesTold_refusals_of_ok

end Closing

/-! ## Lines -/

section Lines

variable {c : Context} {e : Event}

theorem Line.shows_written {f : Fault} (h : e.Shows f) : Line.Shows (e.written c) f where
  kind := by rw [lookup_written _ _ h.keys (by decide) (by decide), h.kind]
  message := by rw [lookup_written _ _ h.keys (by decide) (by decide), h.message]

theorem Line.tells_completed (mode : Value) (g : Generation) :
    Line.Tells ((Request.completed mode (.int g.definition.states.size)
      (.int g.definition.transitions.size) (.int g.warnings.length)).written c)
        (.ok g) := by
  have hkeys : ((Request.completed mode (.int g.definition.states.size)
      (.int g.definition.transitions.size) (.int g.warnings.length)).fields.map Prod.fst).Nodup := by
    simp [Request.completed]
  refine .completed (event_written _ _) ?_ ?_ ?_
  · exact lookup_written _ _ hkeys (by decide) (by decide)
  · exact lookup_written _ _ hkeys (by decide) (by decide)
  · exact lookup_written _ _ hkeys (by decide) (by decide)

theorem Event.shows_rejected (f : Fault) : (Request.rejected f).Shows f :=
  ⟨by simp [Request.rejected], rfl, rfl⟩

end Lines

namespace RequestLog

variable {r : Request} {x : Except Fault Generation} {es : List Event}

theorem exists_last (h : RequestLog r x es) (c : Context) :
    ∃ opening e, es = opening ++ [e] ∧ Line.Tells (e.written c) x := by
  cases h with
  | @unread f hread =>
    refine ⟨r.started :: r.read.events, Request.rejected f, by simp, ?_⟩
    exact .rejected (event_written _ _) (Line.shows_written (Event.shows_rejected f))
  | @objected d review f hread hreview hstrict =>
    refine ⟨r.started :: (r.read.events ++ [review]), Request.rejected f, by simp, ?_⟩
    exact .rejected (event_written _ _) (Line.shows_written (Event.shows_rejected f))
  | @met g review render hread hreview hrender =>
    exact ⟨r.started :: (r.read.events ++ [review, render]), _, by simp,
      Line.tells_completed (.text r.mode) g⟩

/-- Only a reading tells a refusal. -/
theorem mem_read_of_refusal (h : RequestLog r x es) {e : Event} (he : e ∈ es)
    (hname : e.name ∈ refusalNames) : e ∈ r.read.events := by
  have hstarted : r.started.name ∉ refusalNames := by simp [Request.started, refusalNames]
  have hrejected : ∀ f, (Request.rejected f).name ∉ refusalNames := by
    simp [Request.rejected, refusalNames]
  cases h with
  | unread =>
    simp only [List.mem_cons, List.mem_append, List.not_mem_nil, or_false] at he
    rcases he with rfl | he | rfl
    · exact absurd hname hstarted
    · exact he
    · exact absurd hname (hrejected _)
  | objected _ hreview =>
    simp only [List.mem_cons, List.mem_append, List.not_mem_nil, or_false] at he
    rcases he with rfl | he | rfl | rfl
    · exact absurd hname hstarted
    · exact he
    · rw [hreview] at hname
      exact absurd hname (by decide)
    · exact absurd hname (hrejected _)
  | met _ hreview hrender =>
    simp only [List.mem_cons, List.mem_append, List.not_mem_nil, or_false] at he
    rcases he with rfl | he | rfl | rfl | rfl
    · exact absurd hname hstarted
    · exact he
    · rcases hreview with hreview | hreview
      · rw [hreview] at hname
        exact absurd hname (by decide)
      · rw [hreview] at hname
        exact absurd hname (by decide)
    · rw [hrender] at hname
      exact absurd hname (by decide)
    · simp [Request.completed, refusalNames] at hname

theorem shows_of_mem (h : RequestLog r x es) {e : Event} (he : e ∈ es)
    (hname : e.name ∈ refusalNames) : ∃ f, x = .error f ∧ e.Shows f := by
  obtain ⟨f, hread, hshows⟩ := r.readLog.shows_of_mem (h.mem_read_of_refusal he hname) hname
  cases h with
  | unread hx =>
    cases hx.symm.trans hread
    exact ⟨_, rfl, hshows⟩
  | objected hx => cases hx.symm.trans hread
  | met hx => cases hx.symm.trans hread

end RequestLog

/-! ## What a session keeps of a request -/

theorem Request.mode_ne_empty (r : Request) : r.mode ≠ "" := by
  cases r <;> simp [mode]

theorem traced {p : Put} {x : Except Fault Generation}
    (h : RequestLog p.request x (p.request.run p.settings).events) :
    Traced p x p.lines := by
  obtain ⟨closing, hclosing, hnames⟩ := h.closing
  have htold : p.lines.map Line.event =
      "generation_started" :: (p.request.read.events.map Event.name ++ closing) := by
    rw [← hnames, Put.lines, Put.events, List.map_map]
    exact List.map_congr_left fun e _ => event_written _ e
  -- A reading has names of its own, so all other names are counted in the closing.
  have hcount : ∀ names, (∀ name ∈ progressNames ++ refusalNames, name ∉ names) →
      "generation_started" ∉ names →
      timesTold names (p.lines.map Line.event) = timesTold names closing := by
    intro names hread hstarted
    rw [htold, timesTold_cons, timesTold_append, p.request.readLog.timesTold_eq_zero hread,
      if_neg hstarted, Nat.zero_add, Nat.zero_add]
  refine ⟨?_, by rw [htold]; rfl, ?_, ?_, ?_, ?_, ?_, ?_, ?_, ?_⟩
  · intro l hl
    rw [Put.lines] at hl
    obtain ⟨e, _, rfl⟩ := List.mem_map.1 hl
    exact lookup_written_fresh _ _ p.request.mode_ne_empty
  · have hnone : timesTold ["generation_started"] closing = 0 := by
      cases hclosing <;> decide
    rw [htold, timesTold_cons, timesTold_append,
      p.request.readLog.timesTold_eq_zero (by decide), hnone]
    rfl
  · obtain ⟨opening, e, hes, htells⟩ := h.exists_last p.context
    refine ⟨e.written p.context, ?_, htells⟩
    rw [Put.lines, Put.events, hes]
    simp
  · rw [hcount _ (by decide) (by decide), hclosing.timesTold_ended]
  · rw [hcount _ (by decide) (by decide), hclosing.timesTold_rendered]
  · rw [hcount _ (by decide) (by decide), hclosing.timesTold_reviewed]
  · rw [hcount _ (by decide) (by decide), hclosing.timesTold_objected]
  · -- Refusals are the one thing that is counted in the reading.
    have hnone : timesTold refusalNames closing = 0 := by
      cases hclosing <;> decide
    rw [htold, timesTold_cons, timesTold_append, hnone, hclosing.timesTold_refused,
      if_neg (by decide), Nat.zero_add, Nat.add_zero]
  · intro l hl hrefusal
    rw [Put.lines] at hl
    obtain ⟨e, he, rfl⟩ := List.mem_map.1 hl
    rw [event_written] at hrefusal
    obtain ⟨f, hx, hshows⟩ := h.shows_of_mem he hrefusal
    exact ⟨f, hx, Line.shows_written hshows⟩

/-- A request that returns leaves its trace in the log, whatever was put before it, and
what is put later writes what it would write alone. -/
theorem a_request_leaves_its_trace (s : Session) (before after : List Put) (p : Put)
    {x : Except Fault Generation} (h : p.result = x.mapError Stop.fault) :
    ∃ lines, Traced p x lines ∧
      (s.run "debug" (before ++ [p])).log.lines = (s.run "debug" before).log.lines ++ lines ∧
      (s.run "debug" (before ++ p :: after)).log.lines =
        (s.run "debug" before).log.lines ++ lines ++ (Session.run "debug" {} after).log.lines := by
  refine ⟨p.lines, traced (Request.requestLog h), ?_, ?_⟩
  · rw [Session.lines_run, Session.lines_run, List.flatMap_append, List.flatMap_singleton,
      Log.linesOf_append, p.linesOf_told, List.append_assoc]
  · rw [Session.lines_run, Session.lines_run, Session.lines_run, List.flatMap_append,
      List.flatMap_cons, Log.linesOf_append, Log.linesOf_append, p.linesOf_told,
      List.nil_append, List.append_assoc, List.append_assoc]

/-- A pair beyond the states is refused behind a ring that was met: the refusal is told
once, and every line has the name of its own request. -/
theorem a_refusal_is_told_behind_a_ring :
    Put.result ⟨{}, .advanced (some "A;B") (some "1-2;2-3"), "second"⟩ =
        .error (.fault (.positionOutOfRange "2-3" 2)) ∧
      ∃ lines, (Session.run "debug" {} [⟨{}, .fast (some "A;B"), "first"⟩,
            ⟨{}, .advanced (some "A;B") (some "1-2;2-3"), "second"⟩]).log.lines =
          (Session.run "debug" {} [⟨{}, .fast (some "A;B"), "first"⟩]).log.lines ++ lines ∧
        timesTold refusalNames (lines.map Line.event) = 1 ∧
        (∃ l, lines.getLast? = some l ∧ l.Tells (.error (.positionOutOfRange "2-3" 2))) ∧
        ∀ l ∈ lines, l.lookup "request_id" = some (.text "second") := by
  have h : Put.result ⟨{}, .advanced (some "A;B") (some "1-2;2-3"), "second"⟩ =
      .error (.fault (.positionOutOfRange "2-3" 2)) := rfl
  obtain ⟨lines, htraced, hlines, _⟩ := a_request_leaves_its_trace {}
    [⟨{}, .fast (some "A;B"), "first"⟩] []
    ⟨{}, .advanced (some "A;B") (some "1-2;2-3"), "second"⟩
    (x := .error (.positionOutOfRange "2-3" 2)) h
  exact ⟨h, lines, hlines, htraced.refused, htraced.last, fun l hl => (htraced.own l hl).1⟩

end ThreeBlock
