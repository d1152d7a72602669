-- When a text can be written to a path: nothing from outside goes wrong, the directories
-- above it can be made, and there a staging file finds room and may then take the place
-- of the target. The text itself does not count.
import ThreeBlock.Proofs.Files.AtomicWrite
namespace ThreeBlock.AtomicWrite

/-- A directory in which a staging file can be made for a target, and from there
moved to it. -/
structure Room (c : Conditions) (p : Path) (fs : FileSystem) (directory staging : Place) :
    Prop where
  named : p.steps ≠ []
  not_up : p.name ≠ ".."
  usable : FileSystem.usable p.text = .ok ()
  whole : p.name.toList.contains '\x00' = false
  place : stagingPlace c p directory fs c.tags = .ok staging
  clear : fs.isDirectory (directory.child p.name) = false

/-- A path to which a text can be written. -/
structure Writable (c : Conditions) (fs : FileSystem) (p : Path) : Prop where
  quiet : c.AreQuiet 1
  room : ∃ made directory staging,
    fs.ensureDirectories (c.trouble ∘ .directory) c.limits.directories p.parent =
      (made, .ok directory) ∧ Room c p made directory staging

variable {c : Conditions} {fs fs' : FileSystem} {text : String} {p : Path}
  {directory staging : Place}

/-! ## Texts -/

theorem ofName?_utf8 : Text.Encoding.ofName? "utf-8" = some (.utf8 false) := by decide +kernel

theorem codec_ofText : (ofText p text).codec = some (Text.Encoding.codec (.utf8 false)) :=
  congrArg (Option.map Text.Encoding.codec) ofName?_utf8

theorem next_utf8 (earlier : List String) (text : String) :
    (Text.Encoding.codec (.utf8 false)).next earlier text = .ok (Text.utf8Bytes text) := by
  have hmark : (if earlier.isEmpty then (Text.Encoding.utf8 false).mark else []) = [] :=
    ite_self _
  unfold Text.Encoding.codec Text.Codec.ofEncoder
  dsimp only
  rw [hmark]
  rfl

theorem spells_ofText {bytes : Text.Bytes} (h : (ofText p text).Spells bytes) :
    bytes = Text.utf8Bytes text := by
  obtain ⟨codec, texts, hcodec, hsteps, hbytes⟩ := h
  obtain rfl := Option.some.inj (codec_ofText.symm.trans hcodec)
  cases texts with
  | nil => cases hsteps
  | cons t ts =>
    obtain ⟨hhead, htail⟩ := List.cons.inj hsteps
    obtain rfl : ts = [] := List.map_eq_nil_iff.1 htail.symm
    cases hhead
    obtain ⟨added, more, hadded, hmore, rfl⟩ := Text.Codec.pieces_cons_eq_ok_iff.1 hbytes
    rw [next_utf8] at hadded
    cases hadded
    cases hmore
    exact List.append_nil _

/-- A staging file that is filled with a text and closed holds it. -/
theorem close_fill_text (hquiet : c.AreQuiet 1) (fs : FileSystem) (staging : Place)
    (text : String) :
    close c (fill c (Text.Encoding.codec (.utf8 false)) staging 0 [] [.write text]
      (fs.put staging [])) = .ok ((fs.put staging []).put staging (Text.utf8Bytes text)) := by
  have hempty : (fs.put staging []).file? staging = some [] := by simp
  have hfilling := hquiet.filling 0 Nat.zero_lt_one
  simp only [fill, hfilling, next_utf8, append, hempty, List.nil_append, close, hquiet.closing,
    Option.elim_none]

/-- In a directory with room the staging file is moved to the target. -/
theorem exists_stage_of_room (hquiet : c.AreQuiet 1) (h : Room c p fs directory staging)
    (text : String) :
    ∃ fs', (ofText p text).stage c (Text.Encoding.codec (.utf8 false)) directory staging fs =
      .ok fs' := by
  have hname : (p.steps = [] || p.name = "..") = false := by simp [h.named, h.not_up]
  have hclear : FileSystem.isDirectory
      ((fs.put staging []).put staging (Text.utf8Bytes text)) (directory.child p.name) = false :=
    h.clear
  unfold stage
  dsimp only [ofText]
  rw [close_fill_text hquiet, hquiet.replacing]
  dsimp only
  unfold move
  simp only [h.usable, hname, FileSystem.file?_put, if_pos, hclear, Bool.false_eq_true, if_false]
  exact ⟨_, rfl⟩

/-! ## Staging files -/

section Staging

variable {w : AtomicWrite} {codec : Text.Codec}

theorem openStaging_of_room (h : Room c w.target fs directory staging)
    (hplain : w.encoding.toList.contains '\x00' = false) (hcodec : w.codec = some codec) :
    w.openStaging c directory fs = w.stage c codec directory staging fs := by
  unfold openStaging
  rw [hplain, h.whole, if_neg Bool.false_ne_true, if_neg Bool.false_ne_true, h.place, hcodec]

theorem room_of_openStaging (h : w.openStaging c directory fs = .ok fs') :
    c.trouble .closing = none ∧ c.trouble .replacing = none ∧
      (∀ i < w.steps.length, c.trouble (.filling i) = none) ∧
      ∃ staging, Room c w.target fs directory staging := by
  unfold openStaging at h
  split at h
  · cases h
  · split at h
    · cases h
    · next hwhole =>
      split at h
      · cases h
      · next staging hplace =>
        split at h
        · cases h
        · next hcodec =>
          obtain ⟨bytes, hdelivered⟩ := stage_eq_ok hcodec (free_of_stagingPlace hplace).free h
          exact ⟨hdelivered.closing, hdelivered.replacing, hdelivered.filling, staging,
            hdelivered.named, hdelivered.not_up, hdelivered.usable,
            Bool.of_not_eq_true hwhole, hplace, hdelivered.inPlace.clear⟩

end Staging

/-! ## Whole writes -/

section Parents

variable {w : AtomicWrite} {made : FileSystem}

theorem attempt_of_parents (hparents : c.trouble .parents = none)
    (hstaging : c.trouble .staging = none)
    (hensured : fs.ensureDirectories (c.trouble ∘ .directory) c.limits.directories w.target.parent =
      (made, .ok directory)) :
    w.attempt c fs = w.openStaging c directory made := by
  unfold attempt
  rw [hparents, hensured]
  dsimp only
  rw [hstaging]

end Parents

/-- A text is written just when its path is one that can be written to. -/
theorem exists_attempt_ofText_iff :
    (∃ fs', (ofText p text).attempt c fs = .ok fs') ↔ Writable c fs p := by
  constructor
  · rintro ⟨fs', h⟩
    unfold attempt at h
    split at h
    · cases h
    · next hparents =>
      split at h
      · cases h
      · next made directory hensured =>
        split at h
        · cases h
        · next hstaging =>
          obtain ⟨hclosing, hreplacing, hfilling, staging, hroom⟩ := room_of_openStaging h
          exact ⟨⟨hparents, hstaging, hfilling, hclosing, hreplacing⟩, made, directory, staging,
            hensured, hroom⟩
  · rintro ⟨hquiet, made, directory, staging, hensured, hroom⟩
    have hplain : "utf-8".toList.contains '\x00' = false := by decide
    rw [attempt_of_parents (w := ofText p text) hquiet.parents hquiet.staging hensured,
      openStaging_of_room (w := ofText p text) hroom hplain codec_ofText]
    exact exists_stage_of_room hquiet hroom text

end ThreeBlock.AtomicWrite
