-- Any number of writes, one after the other. Each call leaves the file system
-- settled: it fails and all files are as before, or it goes through and one
-- file is new. So what is held at the end is what the last call that went
-- through put there. Its bytes are those of its texts one after the other; only
-- some encodings make them those of the text as a whole.
import Mathlib.Data.List.Induction
import ThreeBlock.Proofs.Files.AtomicWrite
namespace ThreeBlock

/-- A call that writes a file at the path that a text spells, with what it finds
outside. -/
structure WriteCall extends AtomicWrite where
  path : String
  conditions : AtomicWrite.Conditions
  spelled : target = Path.ofString path

namespace WriteCall

/-- What a call leads to. -/
def ending (c : WriteCall) (fs : FileSystem) : AtomicWrite.Result := c.result c.conditions fs

/-- The file system after calls, one after the other. -/
def runAll (fs : FileSystem) (cs : List WriteCall) : FileSystem :=
  cs.foldl (fun fs c => (c.ending fs).files) fs

theorem runAll_append_singleton (fs : FileSystem) (cs : List WriteCall) (c : WriteCall) :
    runAll fs (cs ++ [c]) = (c.ending (runAll fs cs)).files := by
  rw [runAll, List.foldl_append]
  rfl

/-! ## One call -/

/-- The two ways that a call may end. -/
inductive Settled (c : WriteCall) (fs : FileSystem) : AtomicWrite.Result → Prop
  /-- It tells a reason, and every file holds what it held. -/
  | failed {fs' : FileSystem} {reason : String} :
      (∀ l, fs'.held? l = fs.held? l) → Settled c fs ⟨fs', some reason⟩
  /-- Its target can be read and gives what was written, and no other file changes. Where
  pieces do not show, that is the text of all pieces in its encoding. -/
  | written {fs' : FileSystem} {l : Place} {bytes : Text.Bytes} :
      c.Written c.conditions fs fs' l bytes → fs'.read c.target = .ok bytes →
      (∀ codec texts, c.codec = some codec → c.steps = texts.map .write →
        codec.SeamlessOn texts → codec.whole (String.join texts) = .ok bytes) →
      Settled c fs ⟨fs', none⟩

theorem write_injective : Function.Injective FillStep.write := fun _ _ h => FillStep.write.inj h

/-- Without seams the bytes asked for are those of the text of all pieces. -/
theorem whole_of_spells {w : AtomicWrite} {bytes : Text.Bytes} (h : w.Spells bytes)
    {codec : Text.Codec} {texts : List String} (hcodec : w.codec = some codec)
    (hsteps : w.steps = texts.map .write) (hseamless : codec.SeamlessOn texts) :
    codec.whole (String.join texts) = .ok bytes := by
  obtain ⟨codec', texts', hcodec', hsteps', hpieces⟩ := h
  obtain rfl : codec = codec' := Option.some.inj (hcodec.symm.trans hcodec')
  obtain rfl : texts = texts' :=
    List.map_injective_iff.2 write_injective (hsteps.symm.trans hsteps')
  exact hseamless bytes hpieces

/-- Whatever goes wrong and wherever it does, a call ends in one of two ways. -/
theorem settled (c : WriteCall) (fs : FileSystem) : Settled c fs (c.ending fs) := by
  unfold ending AtomicWrite.result
  cases h : c.attempt c.conditions fs with
  | error failure =>
    obtain ⟨fs', reason⟩ := failure
    exact .failed (AtomicWrite.attempt_eq_error h).held?_eq
  | ok fs' =>
    have hidle : ∀ s ∈ c.target.steps, Path.isIdle s = false := by
      intro s hs
      rw [c.spelled] at hs
      exact Path.not_isIdle_of_mem_steps hs
    obtain ⟨l, bytes, hwritten⟩ := AtomicWrite.attempt_eq_ok hidle h
    exact .written hwritten hwritten.read fun _ _ => whole_of_spells hwritten.spelled

theorem Settled.kept {c : WriteCall} {fs : FileSystem} {r : AtomicWrite.Result} {reason : String}
    (h : Settled c fs r) (hfailure : r.failure = some reason) (l : Place) :
    r.files.held? l = fs.held? l := by
  cases h with
  | failed hsame => exact hsame l
  | written => cases hfailure

/-! ## All calls -/

/-- What calls put in place, newest first: an entry for each call that went through,
and none for those that failed. -/
inductive Ledger (fs : FileSystem) : List WriteCall → List (Place × Text.Bytes) → Prop
  | start : Ledger fs [] []
  | failed {cs : List WriteCall} {c : WriteCall} {entries : List (Place × Text.Bytes)}
      {reason : String} :
      Ledger fs cs entries → (c.ending (runAll fs cs)).failure = some reason →
      Ledger fs (cs ++ [c]) entries
  | written {cs : List WriteCall} {c : WriteCall} {entries : List (Place × Text.Bytes)}
      {l : Place} {bytes : Text.Bytes} :
      Ledger fs cs entries → (c.ending (runAll fs cs)).failure = none →
      c.Written c.conditions (runAll fs cs) (runAll fs (cs ++ [c])) l bytes →
      Ledger fs (cs ++ [c]) ((l, bytes) :: entries)

theorem exists_ledger (fs : FileSystem) (cs : List WriteCall) :
    ∃ entries, Ledger fs cs entries ∧
      ∀ l, (runAll fs cs).held? l = (entries.lookup l).or (fs.held? l) := by
  induction cs using List.reverseRecOn with
  | nil => exact ⟨[], .start, fun _ => rfl⟩
  | append_singleton cs c ih =>
    obtain ⟨entries, hledger, hheld⟩ := ih
    have hsettled := c.settled (runAll fs cs)
    cases hresult : c.ending (runAll fs cs) with
    | mk fs' failure =>
      have hstep : runAll fs (cs ++ [c]) = fs' := by
        rw [runAll_append_singleton, hresult]
      rw [hresult] at hsettled
      cases hsettled with
      | failed hsame =>
        refine ⟨entries, .failed hledger (congrArg _ hresult), ?_⟩
        intro l
        rw [hstep, hsame, hheld]
      | @written _ l bytes hwritten _ _ =>
        have hledger' := hledger.written (congrArg _ hresult) (hstep ▸ hwritten)
        refine ⟨(l, bytes) :: entries, hledger', ?_⟩
        intro k
        rw [hstep, hwritten.held?, List.lookup_cons]
        by_cases hk : k = l
        · simp [hk]
        · rw [beq_false_of_ne hk, if_neg hk, hheld]

/-- A call in which nothing from outside goes wrong. -/
def plain (path tag : String) (steps : List FillStep) : WriteCall :=
  { path, steps, conditions := { tags := [tag] }, target := Path.ofString path, spelled := rfl }

end WriteCall

end ThreeBlock
