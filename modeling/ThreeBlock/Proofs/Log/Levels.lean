-- Levels of a log. Two logs at two levels that are told the same are alike: the log at
-- the higher level holds the lines of the other one that are severe enough, in the same
-- order. As no request looks at its log, so do the logs of two sessions.
import ThreeBlock.Proofs.Log.Session
namespace ThreeBlock

/-! ## Severity -/

/-- The severities by the levels that lines show. -/
def severities : List (String × Nat) :=
  [("debug", 10), ("info", 20), ("warning", 30), ("error", 40), ("critical", 50)]

/-- The severities that levels stand for, by their names in lower case. -/
def thresholds : List (String × Nat) :=
  [("debug", 10), ("info", 20), ("warn", 30), ("warning", 30), ("error", 40)]

/-- The least severity that is written at a level. A level that is not known stands for
`info`. -/
def thresholdOf (level : String) : Nat := (thresholds.lookup (Text.lowercase level)).getD 20

/-- The severity that a line shows. -/
def Line.severity (l : Line) : Nat :=
  match l.lookup "level" with
  | some (.text name) => (severities.lookup name).getD 0
  | _ => 0

/-- Whether a line is severe enough for a level. -/
def Line.reaches (level : String) (l : Line) : Bool := thresholdOf level ≤ l.severity

theorem severity_written (c : Context) (e : Event) :
    Line.severity (e.written c) = 10 * (e.level.rank + 1) := by
  rw [Line.severity, lookup_written_level]
  cases e.level <;> rfl

theorem thresholdOf_eq (level : String) : thresholdOf level = 10 * ((Level.ofName level).rank + 1) := by
  unfold thresholdOf Level.ofName
  generalize Text.lowercase level = name
  by_cases hknown : name ∈ thresholds.map Prod.fst
  · simp only [thresholds, List.map_cons, List.map_nil, List.mem_cons, List.not_mem_nil,
      or_false] at hknown
    rcases hknown with rfl | rfl | rfl | rfl | rfl <;> rfl
  · rw [lookup_eq_none_of_not_mem hknown]
    simp only [thresholds, List.map_cons, List.map_nil, List.mem_cons, List.not_mem_nil, or_false,
      not_or] at hknown
    obtain ⟨hdebug, _, hwarn, hwarning, herror⟩ := hknown
    rw [Level.ofLowerName, if_neg hdebug, if_neg hwarn, if_neg hwarning, if_neg herror]
    rfl

theorem reaches_written (level : String) (c : Context) (e : Event) :
    Line.reaches level (e.written c) = (Level.ofName level).passes e.level := by
  rw [Line.reaches, severity_written, thresholdOf_eq, Level.passes, decide_eq_decide]
  omega

/-! ## Lines at two levels -/

/-- A line shows the level by which its event was judged. -/
theorem Log.linesOf_eq_filter (level : String) (told : List (Context × Event)) :
    linesOf (Level.ofName level) told =
      (linesOf (Level.ofName "debug") told).filter (Line.reaches level) := by
  rw [linesOf_debug, List.filter_map, linesOf]
  congr 1
  apply List.filter_congr
  intro t _
  exact (reaches_written level t.1 t.2).symm

/-! ## Two sessions -/

/-- A session with nothing behind it but the context that was left. -/
def Session.opened (c : Context) : Session := ⟨[], { context := c }⟩

theorem Session.lines_eq_filter (level : String) (c : Context) (ps : List Put) :
    ((opened c).run level ps).log.lines =
      ((opened c).run "debug" ps).log.lines.filter (Line.reaches level) := by
  rw [lines_run, lines_run]
  exact Log.linesOf_eq_filter level _

end ThreeBlock
