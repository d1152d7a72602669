-- The laws of the file system. A file put in place or taken away leaves all
-- other files as they are; making directories leaves every file as it is, and
-- the directory that was asked for is then found at its path.
import Mathlib.Data.List.Basic
import ThreeBlock.Files.FileSystem
import ThreeBlock.Proofs.Rows
namespace ThreeBlock.FileSystem

/-! ## Files -/

theorem lookup_filter_ne {κ α : Type} [BEq κ] [LawfulBEq κ] [DecidableEq κ] (l k : κ)
    (es : List (κ × α)) :
    (es.filter fun e => e.1 ≠ l).lookup k = if k = l then none else es.lookup k := by
  induction es with
  | nil => simp
  | cons e es ih =>
    obtain ⟨key, value⟩ := e
    by_cases hl : key = l
    · rw [List.filter_cons_of_neg (by simp [hl]), ih, List.lookup_cons, hl]
      by_cases hk : k = l
      · simp [hk]
      · simp [hk, beq_false_of_ne hk]
    · rw [List.filter_cons_of_pos (by simp [hl]), List.lookup_cons, List.lookup_cons, ih]
      by_cases hk : k = key
      · simp [hk, hl]
      · simp [beq_false_of_ne hk]

@[simp]
theorem file?_remove (fs : FileSystem) (l k : Place) :
    (fs.remove l).file? k = if k = l then none else fs.file? k := lookup_filter_ne l k fs.files

@[simp]
theorem file?_put (fs : FileSystem) (l k : Place) (bytes : Text.Bytes) :
    (fs.put l bytes).file? k = if k = l then some bytes else fs.file? k := by
  rw [file?, put, List.lookup_cons]
  by_cases h : k = l
  · simp [h]
  · have hrest := file?_remove fs l k
    rw [file?, if_neg h] at hrest
    rw [beq_false_of_ne h, if_neg h, ← hrest]

/-! ## Opening -/

/-- What can be read is seen to be there, unless it may not be looked at. -/
theorem isThereAt_of_readAt {fs : FileSystem} {l : Place} {bytes : Text.Bytes}
    (hseen : ∀ e, fs.bar? l ≠ some (.unseen e)) (h : fs.readAt l = .ok bytes) :
    fs.isThereAt l = .ok true := by
  unfold readAt at h
  split at h
  · cases h
  · split at h
    · next hfile =>
      unfold isThereAt
      split
      · next e hbar => exact absurd hbar (hseen e)
      · rw [hfile, Option.isSome_some, Bool.or_true]
    · cases h

/-- A file that was opened is there. -/
theorem isThereAt_of_openAt {fs : FileSystem} {l : Place} {f : Opened} (h : fs.openAt l = .ok f) :
    fs.isThereAt l = .ok true := by
  unfold openAt at h
  split at h
  · cases h
  · cases h
  · next hbar =>
    obtain ⟨bytes, hread, -⟩ := map_eq_ok_iff.1 h
    exact isThereAt_of_readAt (by simp [hbar]) hread
  · next hbar =>
    obtain ⟨bytes, hread, -⟩ := map_eq_ok_iff.1 h
    exact isThereAt_of_readAt (by simp [hbar]) hread

/-! ## Following paths -/

theorem isDirectory_mono {fs fs' : FileSystem} (h : fs.directories ⊆ fs'.directories) {l : Place}
    (hl : fs.isDirectory l = true) : fs'.isDirectory l = true := by
  simp only [isDirectory, Bool.or_eq_true, decide_eq_true_eq, List.contains_iff_mem] at hl ⊢
  exact hl.imp_right fun hm => h hm

/-- A step can be followed from a directory, if its name is short enough. -/
theorem follow_cons_eq_ok_iff {fs : FileSystem} {l k : Place} {s : String} {ss : List String} :
    fs.follow l (s :: ss) = .ok k ↔
      fs.isDirectory l = true ∧ s.utf8ByteSize ≤ longestName ∧ fs.follow (l.step s) ss = .ok k := by
  rw [follow]
  by_cases hdir : fs.isDirectory l = true
  · by_cases hlong : longestName < s.utf8ByteSize
    · simp [hdir, hlong, Nat.not_le.2 hlong]
    · simp [hdir, hlong, Nat.not_lt.1 hlong]
  · rw [if_neg hdir]
    split
    · simp [hdir]
    · simp [hdir]

theorem follow_mono {fs fs' : FileSystem} (h : fs.directories ⊆ fs'.directories)
    {steps : List String} {l k : Place} (hfollow : fs.follow l steps = .ok k) :
    fs'.follow l steps = .ok k := by
  induction steps generalizing l with
  | nil => exact hfollow
  | cons s ss ih =>
    obtain ⟨hdir, hshort, hrest⟩ := follow_cons_eq_ok_iff.1 hfollow
    exact follow_cons_eq_ok_iff.2 ⟨isDirectory_mono h hdir, hshort, ih hrest⟩

theorem follow_append {fs : FileSystem} {l k m : Place} {steps more : List String}
    (h : fs.follow l steps = .ok k) (hmore : fs.follow k more = .ok m) :
    fs.follow l (steps ++ more) = .ok m := by
  induction steps generalizing l with
  | nil =>
    cases h
    exact hmore
  | cons s ss ih =>
    obtain ⟨hdir, hshort, hrest⟩ := follow_cons_eq_ok_iff.1 h
    exact follow_cons_eq_ok_iff.2 ⟨hdir, hshort, ih hrest⟩

theorem locate_eq_ok_iff {fs : FileSystem} {p : Path} {l : Place} :
    fs.locate p = .ok l ↔
      usable p.text = .ok () ∧ fs.follow (Place.start p.root) p.steps = .ok l := by
  unfold locate
  cases usable p.text with
  | error e =>
    constructor
    · intro h
      cases h
    · rintro ⟨h, _⟩
      cases h
  | ok u =>
    constructor
    · intro h
      exact ⟨rfl, h⟩
    · rintro ⟨_, h⟩
      exact h

/-! ## What regular files hold -/

/-- What a regular file at a place holds. -/
def held? (fs : FileSystem) (l : Place) : Option Text.Bytes := (fs.readAt l).toOption

theorem held?_eq (fs : FileSystem) (l : Place) :
    fs.held? l = if fs.isDirectory l then none else fs.file? l := by
  unfold held? readAt
  split
  · rfl
  · cases fs.file? l with
    | none => rfl
    | some bytes => rfl

theorem read_of_held? {fs : FileSystem} {p : Path} {l : Place} {bytes : Text.Bytes}
    (hlocate : fs.locate p = .ok l) (hheld : fs.held? l = some bytes) :
    fs.read p = .ok bytes := by
  have hread : fs.readAt l = .ok bytes := by
    unfold held? at hheld
    cases h : fs.readAt l with
    | error e =>
      rw [h] at hheld
      cases hheld
    | ok held =>
      rw [h] at hheld
      cases hheld
      rfl
  rw [read, hlocate]
  exact hread

theorem isDirectory_congr {fs fs' : FileSystem} (h : fs'.directories = fs.directories) (l : Place) :
    fs'.isDirectory l = fs.isDirectory l := by
  rw [isDirectory, h, isDirectory]

/-- A file system with the same files and perhaps more directories, none of them
where a file is. -/
structure Extends (fs fs' : FileSystem) : Prop where
  files : ∀ l, fs'.file? l = fs.file? l
  directories : fs.directories ⊆ fs'.directories
  clear : ∀ l, fs'.isDirectory l = true → fs.isDirectory l = true ∨ fs.file? l = none

namespace Extends

variable {fs fs' fs'' : FileSystem}

theorem of_directories_eq (h : fs'.directories = fs.directories)
    (hfiles : ∀ l, fs'.file? l = fs.file? l) : Extends fs fs' where
  files := hfiles
  directories := by
    rw [h]
    exact List.Subset.refl _
  clear := by
    intro l hl
    rw [isDirectory_congr h] at hl
    exact .inl hl

theorem refl (fs : FileSystem) : Extends fs fs := of_directories_eq rfl fun _ => rfl

theorem trans (h : Extends fs fs') (h' : Extends fs' fs'') : Extends fs fs'' where
  files l := (h'.files l).trans (h.files l)
  directories := List.Subset.trans h.directories h'.directories
  clear := by
    intro l hl
    rcases h'.clear l hl with hl | hl
    · exact h.clear l hl
    · rw [h.files] at hl
      exact .inr hl

theorem addDirectory {l : Place} (h : fs.file? l = none) : Extends fs (fs.addDirectory l) where
  files _ := rfl
  directories := List.subset_cons_self l fs.directories
  clear := by
    intro k hk
    by_cases hkl : k = l
    · exact .inr (hkl ▸ h)
    · simp only [isDirectory, FileSystem.addDirectory, List.contains_cons, beq_false_of_ne hkl,
        Bool.false_or] at hk
      exact .inl hk

theorem held?_eq (h : Extends fs fs') (l : Place) : fs'.held? l = fs.held? l := by
  rw [FileSystem.held?_eq, FileSystem.held?_eq, h.files]
  by_cases hl : fs.isDirectory l = true
  · rw [if_pos hl, if_pos (isDirectory_mono h.directories hl)]
  · rw [if_neg hl]
    split
    · next hl' => exact ((h.clear l hl').resolve_left hl).symm
    · rfl

end Extends

/-! ## Making directories -/

/-- What making a directory leads to: no file changes, and when it goes well, the
steps lead to the directory. -/
structure Made (root : String) (steps : List String) (fs : FileSystem)
    (r : FileSystem × Except String Place) : Prop where
  extended : Extends fs r.1
  found : ∀ l, r.2 = .ok l →
    r.1.isDirectory l = true ∧ r.1.follow (Place.start root) steps = .ok l

theorem Made.of_error {root : String} {steps : List String} {fs fs' : FileSystem} {e : String}
    (h : Extends fs fs') : Made root steps fs (fs', .error e) where
  extended := h
  found := by
    intro l hl
    cases hl

theorem made_ensureAt (obstacles : Obstacles) {fs : FileSystem} {p : Path} {l : Place}
    (h : fs.follow (Place.start p.root) p.steps = .ok l) :
    Made p.root p.steps fs (fs.ensureAt obstacles p l) := by
  unfold ensureAt
  split
  · next hdir =>
    refine ⟨.refl fs, ?_⟩
    rintro _ ⟨⟩
    exact ⟨hdir, h⟩
  · split
    · exact .of_error (.refl fs)
    · next hfile =>
      split
      · exact .of_error (.refl fs)
      · have hadd : Extends fs (fs.addDirectory l) :=
          .addDirectory (Option.not_isSome_iff_eq_none.1 hfile)
        refine ⟨hadd, ?_⟩
        rintro _ ⟨⟩
        exact ⟨by simp [isDirectory, addDirectory], follow_mono hadd.directories h⟩

theorem made_ensureSteps (obstacles : Obstacles) (root : String) (n : Nat) (fs : FileSystem)
    (steps : List String) :
    Made root steps.reverse fs (ensureSteps obstacles root n fs steps) := by
  induction n generalizing fs steps with
  | zero => exact .of_error (.refl fs)
  | succ n ih =>
    unfold ensureSteps
    dsimp only
    split
    · next l hlocate => exact made_ensureAt obstacles (locate_eq_ok_iff.1 hlocate).2
    · next s above hlocate =>
      have habove := ih fs above
      split
      · next fs' e hrest =>
        rw [hrest] at habove
        exact .of_error habove.extended
      · next fs' l hrest =>
        rw [hrest] at habove
        split
        · next k hstep =>
          have hfollow : fs'.follow (Place.start root) (s :: above).reverse = .ok k := by
            rw [List.reverse_cons]
            exact follow_append (habove.found l rfl).2 hstep
          have hmade := made_ensureAt obstacles (p := ⟨root, (s :: above).reverse⟩) hfollow
          exact ⟨habove.extended.trans hmade.extended, hmade.found⟩
        · exact .of_error habove.extended
    · exact .of_error (.refl fs)

/-- Making the directory of a path changes no file and finds the directory. -/
theorem made_ensureDirectories (obstacles : Obstacles) (deepest : Nat) (fs : FileSystem)
    (p : Path) : Made p.root p.steps fs (fs.ensureDirectories obstacles deepest p) := by
  have h := made_ensureSteps obstacles p.root deepest fs p.steps.reverse
  rwa [List.reverse_reverse] at h

end ThreeBlock.FileSystem
