-- Writing a file is all or nothing, whatever goes wrong and when. Filling
-- touches the staging file alone, so taking that away brings back the files as
-- they were; only the move at the end puts the target in place, with the bytes
-- of all texts.
import ThreeBlock.Files.AtomicWrite
import ThreeBlock.Proofs.Files.FileSystem
import ThreeBlock.Proofs.Text.Encoding
namespace ThreeBlock

namespace Path

theorem not_isIdle_of_mem_steps {s step : String} (h : step ∈ (ofString s).steps) :
    isIdle step = false := by
  simpa using (List.mem_filter.1 h).2

theorem name_mem_steps {p : Path} (h : p.steps ≠ []) : p.name ∈ p.steps := by
  rw [name, List.getLast?_eq_some_getLast h]
  exact List.getLast_mem h

theorem steps_eq {p : Path} (h : p.steps ≠ []) : p.steps = p.parent.steps ++ [p.name] := by
  rw [name, List.getLast?_eq_some_getLast h]
  exact (List.dropLast_append_getLast h).symm

end Path

/-- The steps of a path lead to its name in its parent. -/
theorem FileSystem.follow_of_parent {fs : FileSystem} {p : Path} {directory : Place}
    (hdirectory : fs.isDirectory directory = true)
    (hfollow : fs.follow (Place.start p.root) p.parent.steps = .ok directory)
    (hnamed : p.steps ≠ []) (hidle : Path.isIdle p.name = false) (hup : p.name ≠ "..")
    (hshort : p.name.utf8ByteSize ≤ longestName) :
    fs.follow (Place.start p.root) p.steps = .ok (directory.child p.name) := by
  have hlast : fs.follow directory [p.name] = .ok (directory.child p.name) := by
    refine follow_cons_eq_ok_iff.2 ⟨hdirectory, hshort, ?_⟩
    rw [follow, Place.step, hidle, if_neg (by decide), if_neg hup]
  rw [Path.steps_eq hnamed]
  exact follow_append hfollow hlast

namespace AtomicWrite

/-! ## One file at a time -/

/-- A file system that differs in the file at one place at most. -/
structure OnlyAt (l : Place) (fs fs' : FileSystem) : Prop where
  elsewhere : ∀ k, k ≠ l → fs'.file? k = fs.file? k
  directories : fs'.directories = fs.directories

namespace OnlyAt

variable {l : Place} {fs fs' fs'' : FileSystem}

theorem refl (l : Place) (fs : FileSystem) : OnlyAt l fs fs := ⟨fun _ _ => rfl, rfl⟩

theorem trans (h : OnlyAt l fs fs') (h' : OnlyAt l fs' fs'') : OnlyAt l fs fs'' where
  elsewhere k hk := (h'.elsewhere k hk).trans (h.elsewhere k hk)
  directories := h'.directories.trans h.directories

theorem put (l : Place) (fs : FileSystem) (bytes : Text.Bytes) : OnlyAt l fs (fs.put l bytes) where
  elsewhere := by
    intro k hk
    rw [FileSystem.file?_put, if_neg hk]
  directories := rfl

theorem remove (l : Place) (fs : FileSystem) : OnlyAt l fs (fs.remove l) where
  elsewhere := by
    intro k hk
    rw [FileSystem.file?_remove, if_neg hk]
  directories := rfl

theorem append (l : Place) (fs : FileSystem) (bytes : Text.Bytes) :
    OnlyAt l fs (append fs l bytes) := by
  unfold AtomicWrite.append
  split
  · exact put l fs _
  · exact refl l fs

/-- Without the one file, all files are back. -/
theorem discarded (h : OnlyAt l fs fs') (hfree : fs.file? l = none) :
    FileSystem.Extends fs (fs'.remove l) := by
  refine .of_directories_eq h.directories ?_
  intro k
  rw [FileSystem.file?_remove]
  split
  · next hk => rw [hk, hfree]
  · next hk => exact h.elsewhere k hk

end OnlyAt

/-! ## Filling -/

/-- The file system that an attempt reaches, whether it goes well or not. -/
def reached : Except (FileSystem × String) FileSystem → FileSystem
  | .ok fs => fs
  | .error (fs, _) => fs

variable {c : Conditions} {codec : Text.Codec} {staging directory : Place} {fs fs' : FileSystem}
  {bytes : Text.Bytes}

theorem file?_append_eq_some {held' : Text.Bytes}
    (h : (append fs staging bytes).file? staging = some held') :
    ∃ held, fs.file? staging = some held ∧ held' = held ++ bytes := by
  unfold append at h
  split at h
  · next held hheld =>
    rw [FileSystem.file?_put, if_pos rfl] at h
    exact ⟨held, hheld, (Option.some.inj h).symm⟩
  · next hgone =>
    rw [hgone] at h
    cases h

theorem onlyAt_fill (c : Conditions) (codec : Text.Codec) (staging : Place) (n : Nat)
    (earlier : List String) (steps : List FillStep) (fs : FileSystem) :
    OnlyAt staging fs (reached (fill c codec staging n earlier steps fs)) := by
  induction steps generalizing n earlier fs with
  | nil => exact .refl staging fs
  | cons s ss ih =>
    unfold fill
    split
    · exact .refl staging fs
    · exact .refl staging fs
    · exact (OnlyAt.remove staging fs).trans (ih (n + 1) earlier _)
    · split
      · exact .refl staging fs
      · exact (OnlyAt.append staging fs _).trans (ih (n + 1) _ _)

theorem reached_close (c : Conditions) (x : Except (FileSystem × String) FileSystem) :
    reached (close c x) = reached x := by
  cases x with
  | ok fs =>
    unfold close
    cases c.trouble .closing <;> rfl
  | error failure => rfl

/-- A staging file is made empty, filled and closed. -/
theorem onlyAt_filled (c : Conditions) (codec : Text.Codec) (staging : Place)
    (steps : List FillStep) (fs : FileSystem) :
    OnlyAt staging fs (reached (close c (fill c codec staging 0 [] steps (fs.put staging [])))) := by
  rw [reached_close]
  exact (OnlyAt.put staging fs []).trans (onlyAt_fill c codec staging 0 [] steps _)

theorem close_eq_ok {x : Except (FileSystem × String) FileSystem} (h : close c x = .ok fs) :
    c.trouble .closing = none ∧ x = .ok fs := by
  cases x with
  | ok filled =>
    unfold close at h
    cases hclosing : c.trouble .closing with
    | none =>
      rw [hclosing] at h
      exact ⟨rfl, h⟩
    | some reason =>
      rw [hclosing] at h
      cases h
  | error failure => cases h

/-- A filling that goes well, with the staging file still there, has written texts only,
and the staging file has what they add one after the other. -/
theorem fill_eq_ok {n : Nat} {earlier : List String} {steps : List FillStep}
    (hfill : fill c codec staging n earlier steps fs = .ok fs')
    (hheld : fs'.file? staging = some bytes) :
    (∀ i < steps.length, c.trouble (.filling (n + i)) = none) ∧
      ∃ held texts more, fs.file? staging = some held ∧ steps = texts.map .write ∧
        codec.pieces earlier texts = .ok more ∧ bytes = held ++ more := by
  induction steps generalizing n earlier fs with
  | nil =>
    cases hfill
    exact ⟨by simp, bytes, [], [], hheld, rfl, rfl, (List.append_nil _).symm⟩
  | cons s ss ih =>
    unfold fill at hfill
    split at hfill
    · cases hfill
    · cases hfill
    · -- A staging file taken away does not come back.
      obtain ⟨_, held, _, _, hgone, _⟩ := ih hfill
      rw [FileSystem.file?_remove, if_pos rfl] at hgone
      cases hgone
    · next text hquiet =>
      split at hfill
      · cases hfill
      · next added hadded =>
        obtain ⟨hrest, held', texts, more, hheld', rfl, hmore, rfl⟩ := ih hfill
        obtain ⟨held, hbefore, rfl⟩ := file?_append_eq_some hheld'
        refine ⟨?_, held, text :: texts, added ++ more, hbefore, rfl, ?_, List.append_assoc ..⟩
        · intro i hi
          cases i with
          | zero => exact hquiet
          | succ i =>
            have hi := hrest i (by simpa using hi)
            rwa [Nat.add_assoc, Nat.add_comm 1 i] at hi
        · exact Text.Codec.pieces_cons_eq_ok_iff.2 ⟨added, more, hadded, hmore, rfl⟩

/-! ## One write -/

/-- The bytes that a writer asks for: those that its texts add one after the other. -/
def Spells (w : AtomicWrite) (bytes : Text.Bytes) : Prop :=
  ∃ codec texts, w.codec = some codec ∧ w.steps = texts.map .write ∧
    codec.pieces [] texts = .ok bytes

/-- Nothing goes wrong from outside when a staging file is made, filled in some steps and
moved. -/
structure Conditions.AreQuiet (c : Conditions) (steps : Nat) : Prop where
  parents : c.trouble .parents = none
  staging : c.trouble .staging = none
  filling : ∀ i < steps, c.trouble (.filling i) = none
  closing : c.trouble .closing = none
  replacing : c.trouble .replacing = none

/-- A staging file that has taken the place of the target. -/
structure Moved (directory staging : Place) (p : Path) (fs fs' : FileSystem) (bytes : Text.Bytes) :
    Prop where
  staged : fs.file? staging = some bytes
  usable : FileSystem.usable p.text = .ok ()
  named : p.steps ≠ []
  not_up : p.name ≠ ".."
  clear : fs.isDirectory (directory.child p.name) = false
  result : fs' = (fs.remove staging).put (directory.child p.name) bytes

theorem move_eq_ok {p : Path} (h : move fs directory staging p = .ok fs') :
    ∃ bytes, Moved directory staging p fs fs' bytes := by
  unfold move at h
  split at h
  · cases h
  · next husable =>
    split at h
    · cases h
    · next hname =>
      split at h
      · cases h
      · next bytes hstaged =>
        dsimp only at h
        split at h
        · cases h
        · next hclear =>
          cases h
          simp only [Bool.or_eq_true, decide_eq_true_eq, not_or] at hname
          exact ⟨bytes, hstaged, husable, hname.1, hname.2, by simpa using hclear, rfl⟩

/-- A target put in place: only the file there is new. -/
structure InPlace (l : Place) (bytes : Text.Bytes) (fs fs' : FileSystem) : Prop where
  clear : fs.isDirectory l = false
  file? : ∀ k, fs'.file? k = if k = l then some bytes else fs.file? k
  directories : fs'.directories = fs.directories

theorem InPlace.held?_eq {l : Place} (h : InPlace l bytes fs fs') (k : Place) :
    fs'.held? k = if k = l then some bytes else fs.held? k := by
  rw [FileSystem.held?_eq, FileSystem.held?_eq, FileSystem.isDirectory_congr h.directories, h.file?]
  by_cases hk : k = l
  · rw [if_pos hk, if_pos hk, hk, h.clear]
    rfl
  · rw [if_neg hk, if_neg hk]

variable {w : AtomicWrite} {reason : String}

theorem stage_eq_error (hfree : fs.file? staging = none)
    (h : w.stage c codec directory staging fs = .error (fs', reason)) : fs.Extends fs' := by
  have hfilled := onlyAt_filled c codec staging w.steps fs
  unfold stage at h
  split at h
  · next hfill =>
    cases h
    rw [hfill] at hfilled
    exact hfilled.discarded hfree
  · next hfill =>
    rw [hfill] at hfilled
    split at h
    · cases h
      exact hfilled.discarded hfree
    · split at h
      · cases h
      · cases h
        exact hfilled.discarded hfree

/-- A staging file filled with the bytes asked for, and then moved to the target. -/
structure Delivered (w : AtomicWrite) (c : Conditions) (directory : Place) (fs fs' : FileSystem)
    (bytes : Text.Bytes) : Prop where
  spelled : w.Spells bytes
  filling : ∀ i < w.steps.length, c.trouble (.filling i) = none
  closing : c.trouble .closing = none
  replacing : c.trouble .replacing = none
  usable : FileSystem.usable w.target.text = .ok ()
  named : w.target.steps ≠ []
  not_up : w.target.name ≠ ".."
  inPlace : InPlace (directory.child w.target.name) bytes fs fs'

theorem stage_eq_ok (hcodec : w.codec = some codec) (hfree : fs.file? staging = none)
    (h : w.stage c codec directory staging fs = .ok fs') :
    ∃ bytes, w.Delivered c directory fs fs' bytes := by
  have hfilled := onlyAt_filled c codec staging w.steps fs
  unfold stage at h
  split at h
  · cases h
  · next filled hclose =>
    rw [hclose] at hfilled
    split at h
    · cases h
    · next hreplacing =>
      split at h
      · next hmove =>
        cases h
        obtain ⟨hclosing, hfill⟩ := close_eq_ok hclose
        obtain ⟨bytes, hmoved⟩ := move_eq_ok hmove
        obtain ⟨hquiet, held, texts, more, hheld, hsteps, hmore, rfl⟩ :=
          fill_eq_ok hfill hmoved.staged
        -- The staging file was empty before the filling.
        rw [FileSystem.file?_put, if_pos rfl] at hheld
        cases hheld
        have hback : fs.Extends (filled.remove _) := hfilled.discarded hfree
        refine ⟨more, ⟨codec, texts, hcodec, hsteps, hmore⟩, ?_, hclosing, hreplacing,
          hmoved.usable, hmoved.named, hmoved.not_up, ?_, ?_, ?_⟩
        · simpa using hquiet
        · exact (FileSystem.isDirectory_congr hfilled.directories _).symm.trans hmoved.clear
        · intro k
          rw [hmoved.result, FileSystem.file?_put, hback.files]
          rfl
        · rw [hmoved.result]
          exact hfilled.directories
      · cases h

/-- A place for a staging file of a target in a directory. -/
structure Free (p : Path) (directory : Place) (fs : FileSystem) (staging : Place) : Prop where
  short : p.name.utf8ByteSize ≤ FileSystem.longestName
  free : fs.file? staging = none
  unused : fs.isDirectory staging = false

theorem utf8ByteSize_name_le (tag : String) (p : Path) :
    p.name.utf8ByteSize ≤ (stagingName tag p).utf8ByteSize := by
  simp only [stagingName, String.utf8ByteSize_append]
  omega

/-- A search for a place ends at one that is free. -/
theorem free_of_stagingPlace {p : Path} {tags : List String}
    (h : stagingPlace c p directory fs tags = .ok staging) : Free p directory fs staging := by
  induction tags with
  | nil => cases h
  | cons tag tags ih =>
    unfold stagingPlace at h
    dsimp only at h
    split at h
    · cases h
    · next hlength =>
      split at h
      · exact ih h
      · next hfree =>
        cases h
        have hname := utf8ByteSize_name_le tag p
        simp only [Bool.or_eq_true, decide_eq_true_eq, not_or] at hlength hfree
        exact ⟨by omega, by simpa using hfree.1, by simpa using hfree.2⟩

/-- No staging file is made and nothing changes, or one is made where none was. -/
theorem openStaging_cases (w : AtomicWrite) (c : Conditions) (directory : Place)
    (fs : FileSystem) :
    (∃ reason, w.openStaging c directory fs = .error (fs, reason)) ∨
      ∃ codec staging, Free w.target directory fs staging ∧ w.codec = some codec ∧
        w.openStaging c directory fs = w.stage c codec directory staging fs := by
  unfold openStaging
  split
  · exact .inl ⟨_, rfl⟩
  · split
    · exact .inl ⟨_, rfl⟩
    · split
      · exact .inl ⟨_, rfl⟩
      · next staging hplace =>
        split
        · exact .inl ⟨_, rfl⟩
        · next codec hcodec =>
          exact .inr ⟨codec, staging, free_of_stagingPlace hplace, hcodec, rfl⟩

/-- A write that fails leaves every file as it was. -/
theorem attempt_eq_error (h : w.attempt c fs = .error (fs', reason)) : fs.Extends fs' := by
  have hmade := FileSystem.made_ensureDirectories (c.trouble ∘ .directory) c.limits.directories fs
    w.target.parent
  unfold attempt at h
  split at h
  · cases h
    exact .refl fs
  · split at h
    · next hparents =>
      cases h
      rw [hparents] at hmade
      exact hmade.extended
    · next made directory hparents =>
      rw [hparents] at hmade
      split at h
      · cases h
        exact hmade.extended
      · rcases w.openStaging_cases c directory made with
          ⟨_, hopen⟩ | ⟨codec, staging, hfree, _, hopen⟩
        · rw [hopen] at h
          cases h
          exact hmade.extended
        · rw [hopen] at h
          exact hmade.extended.trans (stage_eq_error hfree.free h)

/-- What a write that goes through leaves: the bytes asked for at the place of the
target, and every other file as it was. -/
structure Written (w : AtomicWrite) (c : Conditions) (fs fs' : FileSystem) (l : Place)
    (bytes : Text.Bytes) : Prop where
  quiet : c.AreQuiet w.steps.length
  spelled : w.Spells bytes
  located : fs'.locate w.target = .ok l
  held? : ∀ k, fs'.held? k = if k = l then some bytes else fs.held? k

theorem Written.read {l : Place} (h : w.Written c fs fs' l bytes) :
    fs'.read w.target = .ok bytes := by
  have hheld := h.held? l
  rw [if_pos rfl] at hheld
  exact FileSystem.read_of_held? h.located hheld

theorem attempt_eq_ok (hidle : ∀ s ∈ w.target.steps, Path.isIdle s = false)
    (h : w.attempt c fs = .ok fs') : ∃ l bytes, w.Written c fs fs' l bytes := by
  have hmade := FileSystem.made_ensureDirectories (c.trouble ∘ .directory) c.limits.directories fs
    w.target.parent
  unfold attempt at h
  split at h
  · cases h
  · next hparents =>
    split at h
    · cases h
    · next made directory hensured =>
      rw [hensured] at hmade
      obtain ⟨hdirectory, hfollow⟩ := hmade.found directory rfl
      split at h
      · cases h
      · next hstaging =>
        rcases w.openStaging_cases c directory made with
          ⟨_, hopen⟩ | ⟨codec, staging, hfree, hcodec, hopen⟩
        · rw [hopen] at h
          cases h
        · rw [hopen] at h
          obtain ⟨bytes, hdelivered⟩ := stage_eq_ok hcodec hfree.free h
          have hname := hidle _ (Path.name_mem_steps hdelivered.named)
          have htarget := FileSystem.follow_of_parent hdirectory hfollow hdelivered.named hname
            hdelivered.not_up hfree.short
          refine ⟨directory.child w.target.name, bytes,
            ⟨hparents, hstaging, hdelivered.filling, hdelivered.closing, hdelivered.replacing⟩,
            hdelivered.spelled, ?_, ?_⟩
          · refine FileSystem.locate_eq_ok_iff.2 ⟨hdelivered.usable, ?_⟩
            apply FileSystem.follow_mono _ htarget
            rw [hdelivered.inPlace.directories]
            exact List.Subset.refl _
          · intro k
            rw [hdelivered.inPlace.held?_eq, hmade.extended.held?_eq]

end AtomicWrite

end ThreeBlock
