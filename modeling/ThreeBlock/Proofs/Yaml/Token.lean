-- Names, tags and directives are read in front of the wall.
import ThreeBlock.Proofs.Yaml.Scalars
import ThreeBlock.Yaml.Token
namespace ThreeBlock.Yaml

variable {wall : Option Error} {c : Cursor}

/-! ## Names and tags -/

theorem stays_anchorName (hc : c.wall = wall) : Stays wall (anchorName c) := by
  have hname : (c.advance.takeWhile isNameChar).2.wall = wall := by simp [hc]
  unfold anchorName
  apply Keeps.ite
  · exact keeps_refuse hname rfl
  · apply Keeps.ite
    · exact .ok hname
    · exact keeps_refuse hname rfl

theorem stays_percentBytes (n : Nat) (acc : List UInt8) (hc : c.wall = wall) :
    Stays wall (percentBytes n acc c) := by
  induction n generalizing acc c with
  | zero => exact .ok hc
  | succ n ih =>
    unfold percentBytes
    dsimp only
    apply Keeps.ite
    · exact .ok hc
    · apply Keeps.ite
      · exact keeps_refuse (by simp [hc]) rfl
      · exact ih _ (by simp [hc])

theorem stays_tagText (n : Nat) (acc : List Char) (hc : c.wall = wall) :
    Stays wall (tagText n acc c) := by
  induction n generalizing acc c with
  | zero => exact keeps_refuse hc rfl
  | succ n ih =>
    have hrun : (c.takeWhile isTagChar).2.wall = wall := by simp [hc]
    unfold tagText
    apply Keeps.ite
    · refine (stays_percentBytes _ [] hrun).bind fun r hr => ?_
      dsimp only
      split
      · exact keeps_refuse hr rfl
      · exact ih _ hr
    · apply Keeps.ite
      · exact keeps_refuse hrun rfl
      · exact .ok hrun

theorem stays_tagHandle (hc : c.wall = wall) : Stays wall (tagHandle c) := by
  have hname : (c.advance.takeWhile isNameChar).2.wall = wall := by simp [hc]
  unfold tagHandle
  apply Keeps.ite
  · exact keeps_refuse hc rfl
  · apply Keeps.ite
    · exact .ok (by simp [hc])
    · apply Keeps.ite
      · exact .ok (by simp [hc])
      · exact keeps_refuse hname rfl

theorem keeps_tagParts (hc : c.wall = wall) :
    Keeps wall (fun r => r.2.2.wall = wall) (tagParts c) := by
  unfold tagParts
  dsimp only
  apply Keeps.ite
  · refine (stays_tagText _ [] (by simp [hc])).bind fun r hr => ?_
    apply Keeps.ite
    · exact .ok ((Cursor.wall_advance _).trans hr)
    · exact keeps_refuse hr rfl
  · apply Keeps.ite
    · exact .ok (by simp [hc])
    · apply Keeps.ite
      · refine (stays_tagHandle hc).bind fun r hr => ?_
        exact (stays_tagText _ [] hr).bind fun r hr => .ok hr
      · exact (stays_tagText _ [] (by simp [hc])).bind fun r hr => .ok hr

theorem stays_tagToken (hc : c.wall = wall) : Stays wall (tagToken c) := by
  unfold tagToken
  refine (keeps_tagParts hc).bind fun r hr => ?_
  apply Keeps.ite
  · exact .ok hr
  · exact keeps_refuse hr rfl

/-! ## Directives -/

theorem stays_versionNumber (hc : c.wall = wall) : Stays wall (versionNumber c) := by
  have hdigits : (c.takeWhile Text.isDigit).2.wall = wall := by simp [hc]
  unfold versionNumber
  dsimp only
  apply Keeps.ite
  · exact keeps_refuse hdigits rfl
  · split
    · exact .ok hdigits
    · exact keeps_refuse hdigits rfl

theorem stays_versionValue (hc : c.wall = wall) : Stays wall (versionValue c) := by
  unfold versionValue
  refine (stays_versionNumber hc).bind fun r hr => ?_
  apply Keeps.ite
  · exact keeps_refuse hr rfl
  · refine (stays_versionNumber ((Cursor.wall_advance _).trans hr)).bind fun r hr => ?_
    apply Keeps.ite
    · exact .ok hr
    · exact keeps_refuse hr rfl

theorem stays_handleValue (hc : c.wall = wall) : Stays wall (handleValue c) := by
  unfold handleValue
  refine (stays_tagHandle hc).bind fun r hr => ?_
  apply Keeps.ite
  · exact keeps_refuse hr rfl
  · refine (stays_tagText _ [] ((Cursor.wall_skipWhile _ _).trans hr)).bind fun r hr => ?_
    apply Keeps.ite
    · exact .ok hr
    · exact keeps_refuse hr rfl

/-- The rest of the line of a directive. -/
theorem stays_directiveEnd {d : Directive} (hc : c.wall = wall) :
    Stays wall
      (if isBreakOrEnd ((c.skipWhile (· = ' ')).skipComment).peek then
        return (Token.directive d,
          match ((c.skipWhile (· = ' ')).skipComment).takeBreak with
          | some (_, c) => c
          | none => (c.skipWhile (· = ' ')).skipComment)
      else ((c.skipWhile (· = ' ')).skipComment).refuse .badDirective) := by
  have hline : ((c.skipWhile (· = ' ')).skipComment).wall = wall := by simp [hc]
  apply Keeps.ite
  · exact .ok ((wall_behindBreak _).trans hline)
  · exact keeps_refuse hline rfl

theorem stays_directiveToken (hc : c.wall = wall) : Stays wall (directiveToken c) := by
  have hname : (c.advance.takeWhile isNameChar).2.wall = wall := by simp [hc]
  unfold directiveToken
  dsimp only
  apply Keeps.ite
  · exact keeps_refuse hname rfl
  · have hbehind : ((c.advance.takeWhile isNameChar).2.skipWhile (· = ' ')).wall = wall := by
      simp [hc]
    apply Keeps.ite
    · exact (stays_versionValue hbehind).bind fun r hr => stays_directiveEnd hr
    · apply Keeps.ite
      · exact (stays_handleValue hbehind).bind fun r hr => stays_directiveEnd hr
      · refine Keeps.bind (P := fun r : Directive × Cursor => r.2.wall = wall)
          (.ok (by simp [hc])) fun r hr => ?_
        exact stays_directiveEnd hr

end ThreeBlock.Yaml
