-- A text that is whole is never refused as one that breaks off, whatever it says. One
-- that breaks off before a second piece always is.
import ThreeBlock.Proofs.Yaml.Document
import ThreeBlock.Yaml.Reader
namespace ThreeBlock.Yaml

/-- Something whose errors fit the wall. -/
abbrev Fair {α : Type} (wall : Option Error) (x : Except Error α) : Prop :=
  Keeps wall (fun _ => True) x

variable {wall : Option Error}

/-! ## Merging -/

theorem fair_entriesOfAll {merge : Merger} (h : ∀ g id, Fair wall (merge g id))
    (ids : List Nat) (taken : List (Nat × Nat)) (g : Graph) :
    Fair wall (entriesOfAll merge ids taken g) := by
  induction ids generalizing taken g with
  | nil => exact .ok trivial
  | cons id ids ih =>
    unfold entriesOfAll
    split
    · exact (h g id).bind fun _ _ => ih ..
    · exact .own rfl

theorem fair_mergedEntries {merge : Merger} (h : ∀ g id, Fair wall (merge g id))
    (g : Graph) (id : Nat) : Fair wall (mergedEntries merge g id) := by
  unfold mergedEntries
  split
  · exact (h g id).bind fun _ _ => .ok trivial
  · exact fair_entriesOfAll h ..
  · exact .own rfl

theorem fair_mergeKeys {merge : Merger} (h : ∀ g id, Fair wall (merge g id)) (id n : Nat)
    (taken : List (Nat × Nat)) (g : Graph) : Fair wall (mergeKeys merge id n taken g) := by
  induction n generalizing taken g with
  | zero => exact .ok trivial
  | succ n ih =>
    unfold mergeKeys
    split
    · exact .ok trivial
    · exact (fair_mergedEntries h ..).bind fun _ _ => ih ..

theorem fair_mergeWithin (n : Nat) (g : Graph) (id : Nat) :
    Fair wall (mergeWithin n g id) := by
  induction n generalizing g id with
  | zero => exact .own rfl
  | succ n ih => exact fair_mergeKeys ih ..

/-! ## Scalars -/

theorem fair_orAborted {α : Type} (make : α → Value) (r : Except Abort α) :
    Fair wall (orAborted make r) := by
  cases r with
  | ok a => exact .ok trivial
  | error a => exact .own rfl

theorem fair_scalarValue (tag : Tag) (text : Text.Points) :
    Fair wall (scalarValue tag text) := by
  unfold scalarValue
  split
  any_goals exact fair_orAborted ..
  any_goals exact .own rfl
  · exact .ok trivial
  · split
    · exact .ok trivial
    · exact .own rfl
  · exact .ok trivial

namespace Build

theorem fair_textOf (g : Graph) (n id : Nat) : Fair wall (textOf g n id) := by
  induction n generalizing id with
  | zero => exact .own rfl
  | succ n ih =>
    unfold textOf
    split
    · exact .ok trivial
    · exact .own rfl
    · split
      · exact ih _
      · exact .own rfl

theorem fair_scalarPart (limits : Limits) (g : Graph) (id : Nat) :
    Fair wall (scalarPart limits g id) := by
  unfold scalarPart
  dsimp only
  split
  · exact .own rfl
  · exact .own rfl
  · exact .own rfl
  · refine (fair_textOf g limits.merging id).bind fun text _ => ?_
    apply Keeps.ite
    · exact .own rfl
    · refine (fair_scalarValue _ text).bind fun v _ => ?_
      split
      · exact .ok trivial
      · exact .ok trivial

/-! ## Wholes -/

/-- A step of the building. -/
abbrev Builds {α : Type} (wall : Option Error) (m : Build α) : Prop :=
  Runs wall (fun _ : Building => True) m

theorem builds_node (id : Nat) : Builds wall (node id) := Runs.get.bind fun _ => .pure _

theorem builds_fill (id : Nat) (w : Whole) : Builds wall (fill id w) := .modify fun _ h => h

theorem builds_keep (id : Nat) (p : Part) : Builds wall (keep id p) := .modify fun _ h => h

theorem builds_part (id : Nat) : Builds wall (part id) := by
  unfold part
  refine Runs.get.bind fun b => ?_
  split
  · exact .pure _
  · refine (builds_node id).bind fun n => ?_
    split
    · refine (builds_fill ..).bind fun _ => ?_
      refine (builds_keep ..).bind fun _ => ?_
      exact Runs.bind (.modify fun _ h => h) fun _ => .pure _
    · refine Runs.get.bind fun b => ?_
      refine Runs.get.bind fun b' => ?_
      refine Runs.bind (.lift (fair_scalarPart b.limits b'.graph id)) fun p => ?_
      exact (builds_keep ..).bind fun _ => .pure _

theorem builds_pairPart (id : Nat) : Builds wall (pairPart id) := by
  unfold pairPart
  refine (builds_node id).bind fun n => ?_
  split
  · refine (builds_part _).bind fun key => ?_
    exact (builds_part _).bind fun value => .pure _
  · exact .throw rfl

theorem builds_entryParts (es : List (Nat × Nat)) (acc : List (Part × Part)) :
    Builds wall (entryParts es acc) := by
  induction es generalizing acc with
  | nil => exact .pure _
  | cons e es ih =>
    unfold entryParts
    refine (builds_part _).bind fun key => ?_
    apply Runs.ite
    · exact Runs.bind (.throw rfl) fun _ => (builds_part _).bind fun _ => ih _
    · exact (builds_part _).bind fun _ => ih _

theorem builds_mapParts (id : Nat) : Builds wall (mapParts id) := by
  unfold mapParts
  refine (builds_node id).bind fun n => ?_
  split
  · refine Runs.get.bind fun b => ?_
    refine Runs.get.bind fun b' => ?_
    refine Runs.bind (.lift (fair_mergeWithin ..)) fun g => ?_
    exact Runs.bind (.modify fun _ h => h) fun _ => builds_entryParts ..
  · exact .throw rfl

theorem builds_complete (id : Nat) : Builds wall (complete id) := by
  unfold complete
  refine (builds_node id).bind fun n => ?_
  split
  · exact (Runs.mapM builds_part _).bind fun _ => builds_fill ..
  · exact (Runs.mapM builds_pairPart _).bind fun _ => builds_fill ..
  · exact (builds_mapParts id).bind fun _ => builds_fill ..
  · exact (builds_mapParts id).bind fun _ => builds_fill ..
  · exact .throw rfl

theorem builds_completeAll (n : Nat) (ids : List Nat) : Builds wall (completeAll n ids) := by
  induction n generalizing ids with
  | zero => exact .pure _
  | succ n ih =>
    cases ids with
    | cons id ids => exact (builds_complete id).bind fun _ => ih ids
    | nil =>
      unfold completeAll
      refine Runs.get.bind fun b => ?_
      split
      · exact .pure _
      · exact Runs.bind (.modify fun _ h => h) fun _ => ih _

theorem builds_root (id steps : Nat) : Builds wall (root id steps) := by
  unfold root
  refine (builds_part id).bind fun p => ?_
  exact (builds_completeAll ..).bind fun _ => .pure _

end Build

/-! ## The whole text -/

variable (limits : Limits)

/-- What is wrong with a text fits its wall. -/
theorem fair_read (source : Source) : Fair source.wall (read limits source) := by
  unfold read
  refine (keeps_ofTokens _ fun e h => Tokens.fits_ofText h).bind fun r _ => ?_
  split
  · exact .ok trivial
  · exact ((Build.builds_root _ _).keeps _ trivial).bind fun _ _ => .ok trivial

theorem wall_ofPieces (ps : List (List Char)) :
    (Source.ofPieces ps none).wall = none ∨
      ∃ c, (Source.ofPieces ps none).wall = some (.unprintable c) := by
  induction ps with
  | nil => exact .inl rfl
  | cons p ps ih =>
    unfold Source.ofPieces
    split
    · next c _ => exact .inr ⟨c, rfl⟩
    · exact ih

theorem wall_ofFile_ne (ps : List (List Char)) : (Source.ofFile ps false).wall ≠ some .broken := by
  have hpieces : ∀ qs, (Source.ofPieces qs none).wall ≠ some .broken := by
    intro qs
    rcases wall_ofPieces qs with h | ⟨c, h⟩ <;> simp [h]
  rcases ps with _ | ⟨p, _ | ⟨q, ps⟩⟩
  · simp [Source.ofFile]
  · exact hpieces _
  · exact hpieces _

/-- A text that is whole is never refused as one that breaks off. -/
theorem read_whole (ps : List (List Char)) : read limits (.ofFile ps false) ≠ .error .broken := by
  intro hread
  have hfair := fair_read limits (.ofFile ps false)
  rw [hread] at hfair
  exact wall_ofFile_ne ps hfair.fits.of_broken

/-- Of a text that breaks off before its second piece nothing is read. -/
theorem reader_of_break (ps : List (List Char)) (h : ps.length < 2) :
    reader limits ps true = .torn := by
  rcases ps with _ | ⟨p, _ | ⟨q, ps⟩⟩
  · rfl
  · rfl
  · rw [List.length_cons, List.length_cons] at h
    omega

end ThreeBlock.Yaml
