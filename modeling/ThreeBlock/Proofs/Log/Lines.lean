-- The lines of a log. An event keeps its own particulars when it is written, and the
-- line adds its name, its level, and the request and the mode of the moment.
import Mathlib.Data.List.Nodup
import ThreeBlock.Trace
namespace ThreeBlock

/-- The event that a line tells. -/
def Line.event (l : Line) : String :=
  match l.lookup "event" with
  | some (.text name) => name
  | _ => ""

/-! ## Fields -/

section Fields

variable {α : Type} (asked : String)

theorem lookup_cons_eq_ite (f : String × α) (fields : List (String × α)) :
    (f :: fields).lookup asked = if asked = f.1 then some f.2 else fields.lookup asked := by
  rw [List.lookup_cons]
  by_cases h : asked = f.1
  · simp [h]
  · rw [beq_false_of_ne h, if_neg h]

theorem lookup_eq_none_of_not_mem {fields : List (String × α)} {asked : String}
    (h : asked ∉ fields.map Prod.fst) : fields.lookup asked = none := by
  induction fields with
  | nil => rfl
  | cons f fields ih =>
    rw [List.map_cons, List.mem_cons, not_or] at h
    rw [lookup_cons_eq_ite, if_neg h.1, ih h.2]

theorem lookup_filter_key (keep : String → Bool) (fields : List (String × α)) {asked : String}
    (h : keep asked = true) :
    (fields.filter fun f => keep f.1).lookup asked = fields.lookup asked := by
  induction fields with
  | nil => rfl
  | cons f fields ih =>
    rw [List.filter_cons, lookup_cons_eq_ite]
    by_cases hf : keep f.1 = true
    · rw [if_pos hf, lookup_cons_eq_ite, ih]
    · have hne : asked ≠ f.1 := fun heq => hf (heq ▸ h)
      rw [if_neg hf, if_neg hne, ih]

theorem lookup_setField (key : String) (v : Value) (fields : List (String × Value)) :
    (setField key v fields).lookup asked = if asked = key then some v else fields.lookup asked := by
  induction fields with
  | nil => exact lookup_cons_eq_ite asked (key, v) []
  | cons f fields ih =>
    rw [setField, lookup_cons_eq_ite]
    by_cases hf : f.1 = key
    · rw [if_pos hf, lookup_cons_eq_ite, hf]
      by_cases h : asked = key
      · rw [if_pos h, if_pos h]
      · rw [if_neg h, if_neg h, if_neg h]
    · rw [if_neg hf, lookup_cons_eq_ite, ih]
      by_cases h : asked = f.1
      · have hkey : asked ≠ key := fun heq => hf (h ▸ heq)
        rw [if_pos h, if_neg hkey, if_pos h]
      · rw [if_neg h, if_neg h]

/-- Fields set one after the other stand in front of those before them. -/
theorem lookup_foldl_setField {told : List (String × Value)} (h : (told.map Prod.fst).Nodup)
    (base : List (String × Value)) :
    (told.foldl (fun fs f => setField f.1 f.2 fs) base).lookup asked =
      (told.lookup asked).or (base.lookup asked) := by
  induction told generalizing base with
  | nil => rfl
  | cons f told ih =>
    obtain ⟨hf, htold⟩ := List.nodup_cons.1 h
    rw [List.foldl_cons, ih htold, lookup_setField, lookup_cons_eq_ite]
    by_cases hasked : asked = f.1
    · rw [hasked, lookup_eq_none_of_not_mem hf, if_pos rfl, if_pos rfl]
      rfl
    · rw [if_neg hasked, if_neg hasked]

end Fields

/-! ## Written events -/

section Written

variable (c : Context) (e : Event)

theorem lookup_written_level : (e.written c).lookup "level" = some (.text e.level.text) := by
  unfold Event.written
  dsimp only
  split <;> split <;> simp [lookup_setField]

theorem event_written : Line.event (e.written c) = e.name := by
  have hname : (e.written c).lookup "event" = some (.text e.name) := by
    unfold Event.written
    dsimp only
    split <;> split <;> simp [lookup_setField]
  rw [Line.event, hname]

/-- The fields that a line has from elsewhere than its event. -/
def takenFields : List String := ["logger_name", "event", "level", "request_id", "mode"]

/-- The particulars of an event are those of its line. -/
theorem lookup_written {asked : String} (hfields : (e.fields.map Prod.fst).Nodup)
    (htaken : asked ∉ takenFields) (hasking : asked ∉ askingFields) :
    (e.written c).lookup asked = e.fields.lookup asked := by
  simp only [takenFields, List.mem_cons, List.not_mem_nil, or_false, not_or] at htaken
  obtain ⟨hlogger, hevent, hlevel, hrequest, hmode⟩ := htaken
  have hkept : (!askingFields.contains asked) = true := by simpa using hasking
  have hown : ((e.fields.filter fun f => !askingFields.contains f.1).foldl
      (fun fs f => setField f.1 f.2 fs)
      (if e.logger = "" then [] else [("logger_name", .text e.logger)])).lookup asked =
        e.fields.lookup asked := by
    have hnodup : ((e.fields.filter fun f => !askingFields.contains f.1).map Prod.fst).Nodup :=
      hfields.sublist (List.filter_sublist.map _)
    have hbase : List.lookup asked (if e.logger = "" then []
        else [("logger_name", Value.text e.logger)]) = none := by
      split
      · rfl
      · rw [lookup_cons_eq_ite, if_neg hlogger, List.lookup_nil]
    rw [lookup_foldl_setField _ hnodup, hbase, Option.or_none,
      lookup_filter_key (fun key => !askingFields.contains key) _ hkept]
  unfold Event.written
  dsimp only
  split <;> split <;> simp only [lookup_setField, hevent, hlevel, hrequest, hmode, if_false, hown]

end Written

/-- A request shows the name that was made for it and its mode in each of its lines. -/
theorem lookup_written_fresh (made : String) (e : Event) {mode : String} (h : mode ≠ "") :
    (e.written (.fresh made mode)).lookup "request_id" = some (.text made) ∧
      (e.written (.fresh made mode)).lookup "mode" = some (.text mode) := by
  have hmode : (Context.fresh made mode).mode.isVoid = false := by
    simpa [Context.fresh, Context.enter, Value.isVoid, String.isEmpty_iff] using h
  unfold Event.written
  dsimp only
  rw [hmode]
  constructor
  · rw [if_neg (by simp), lookup_setField, if_neg (by decide)]
    exact (lookup_setField ..).trans (if_pos rfl)
  · rw [if_neg (by simp), lookup_setField, if_pos rfl]
    rfl

end ThreeBlock
