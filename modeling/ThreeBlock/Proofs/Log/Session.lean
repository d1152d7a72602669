-- Requests put one after the other, with one log for all of them. Each request enters
-- the log with a context of its own, so what it writes does not depend on those before
-- it; what it gives does not depend on the log at all.
import ThreeBlock.Proofs.Log.Lines
import ThreeBlock.Proofs.Log.Steady
namespace ThreeBlock

/-! ## Sessions -/

/-- A request put under some settings, with the name that is made for it. -/
structure Put where
  settings : Settings
  request : Request
  name : String

namespace Put

def result (p : Put) : Except Stop Generation := p.request.generate p.settings

/-- The work on a request, told to the log of the session. -/
def perform (p : Put) : Logged (Except Stop Generation) := p.request.perform p.name p.settings

/-- The context that a request enters. -/
def context (p : Put) : Context := .fresh p.name p.request.mode

/-- What a request tells of itself. -/
def events (p : Put) : List Event := (p.request.run p.settings).events

/-- The steps of a request: it enters its own context and tells its events. -/
def steps (p : Put) : List LogStep := .enter p.context :: p.events.map .tell

theorem takes_perform (p : Put) : p.perform.Takes p.result p.steps :=
  Request.takes_perform p.settings p.name p.request

/-- What a request tells, in its own context. -/
def told (p : Put) : List (Context × Event) := p.events.map fun e => (p.context, e)

theorem toldBy_steps (c : Context) (ps : List Put) :
    LogStep.toldBy c (ps.flatMap steps) = ps.flatMap told := by
  induction ps generalizing c with
  | nil => rfl
  | cons p ps ih =>
    have hown : LogStep.toldBy c p.steps = p.told := LogStep.toldBy_map_tell _ _
    rw [List.flatMap_cons, List.flatMap_cons, LogStep.toldBy_append, hown, ih]

end Put

/-- The requests so far: what each of them gave, and the log of all. -/
structure Session where
  results : List (Except Stop Generation) := []
  log : Log := {}

namespace Session

def put (s : Session) (p : Put) : Session :=
  let (x, log) := p.perform.run s.log
  ⟨s.results ++ [x], log⟩

/-- Requests one after the other, with a log at a level. -/
def run (level : String) (s : Session) (ps : List Put) : Session :=
  ps.foldl put { s with log := s.log.configure (Level.ofName level) }

theorem foldl_put (s : Session) (ps : List Put) :
    ps.foldl put s = ⟨s.results ++ ps.map Put.result, s.log.follow (ps.flatMap Put.steps)⟩ := by
  induction ps generalizing s with
  | nil =>
    rw [List.map_nil, List.append_nil]
    rfl
  | cons p ps ih =>
    have hput : s.put p = ⟨s.results ++ [p.result], s.log.follow p.steps⟩ := by
      rw [put, p.takes_perform]
    rw [List.foldl_cons, hput, ih, List.flatMap_cons, Log.follow_append, List.map_cons,
      List.append_assoc]
    rfl

section Run

variable (level : String) (s : Session) (ps : List Put)

/-- The results of a session are those of its requests. -/
theorem results_run : (s.run level ps).results = s.results ++ ps.map Put.result := by
  rw [run, foldl_put]

/-- Each request adds its own lines to the log, whatever was put before. -/
theorem lines_run : (s.run level ps).log.lines =
    s.log.lines ++ Log.linesOf (Level.ofName level) (ps.flatMap Put.told) := by
  rw [run, foldl_put, Log.follow_eq, Put.toldBy_steps]
  rfl

end Run

end Session

/-! ## The lowest level -/

theorem Level.passes_debug (l : Level) : (ofName "debug").passes l = true := rfl

/-- Every event is written at the lowest level. -/
theorem Log.linesOf_debug (told : List (Context × Event)) :
    linesOf (Level.ofName "debug") told = told.map fun t => t.2.written t.1 := by
  have hall : told.filter (fun t => (Level.ofName "debug").passes t.2.level) = told :=
    List.filter_eq_self.2 fun t _ => Level.passes_debug t.2.level
  rw [linesOf, hall]

/-- The lines that a request adds at the lowest level. -/
def Put.lines (p : Put) : List Line := p.events.map fun e => e.written p.context

theorem Put.linesOf_told (p : Put) : Log.linesOf (Level.ofName "debug") p.told = p.lines := by
  rw [Log.linesOf_debug, told, List.map_map]
  rfl

end ThreeBlock
