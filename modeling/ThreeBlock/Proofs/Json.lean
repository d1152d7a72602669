-- JSON text is simple, whatever the value is: every character that ASCII does not show is
-- written as an escape, and numbers are spelled in digits.
import ThreeBlock.Json
import ThreeBlock.Proofs.Text.Simple

namespace ThreeBlock.Decimal

open Text (AreSimple IsSimple areSimple_append areSimple_cons areSimple_ite areSimple_numeral
  areSimple_replicate isSimple_append isSimple_ofList)

/-! ## Numbers -/

theorem areSimple_dropTrailingZeros {cs : List Char} (h : AreSimple cs) :
    AreSimple (dropTrailingZeros cs) := by
  apply h.subset
  intro c hc
  rw [dropTrailingZeros, List.mem_reverse] at hc
  exact List.mem_reverse.1 ((List.dropWhile_suffix _).mem hc)

theorem areSimple_exponentText (e : Int) : AreSimple (exponentText e) := by
  have hsign : Text.isSimple (if e < 0 then '-' else '+') = true := by
    split <;> decide
  have hdigits := areSimple_numeral e.natAbs
  have hpadded : AreSimple ('0' :: Text.numeral e.natAbs) := areSimple_cons.2 ⟨by decide, hdigits⟩
  rw [exponentText, areSimple_cons, areSimple_cons]
  exact ⟨by decide, hsign, areSimple_ite (fun _ => hpadded) fun _ => hdigits⟩

theorem areSimple_layout {ds : List Char} (h : AreSimple ds) (point : Int) :
    AreSimple (layout ds point) := by
  have hzeros : ∀ n, AreSimple (List.replicate n '0') := fun n => areSimple_replicate n (by decide)
  have hmark : Text.isSimple '.' = true := by decide
  unfold layout
  split
  · split
    · exact .nil
    · exact areSimple_cons.2 ⟨h _ List.mem_cons_self, areSimple_exponentText _⟩
    · next d ds =>
      rw [areSimple_cons] at h
      rw [areSimple_append, areSimple_cons, areSimple_cons]
      exact ⟨⟨h.1, hmark, h.2⟩, areSimple_exponentText _⟩
  · split
    · rw [areSimple_append, areSimple_cons, areSimple_cons]
      exact ⟨⟨by decide, hmark, hzeros _⟩, h⟩
    · split
      · rw [areSimple_append, areSimple_append]
        exact ⟨⟨h, hzeros _⟩, by decide⟩
      · rw [areSimple_append, areSimple_cons]
        exact ⟨h.subset (List.take_subset _ _), hmark, h.subset (List.drop_subset _ _)⟩

theorem areSimple_text (d : Double) : AreSimple d.text := by
  unfold Double.text
  split
  · decide
  · exact areSimple_layout (areSimple_dropTrailingZeros (areSimple_numeral _)) _

theorem isSimple_floatText (x : Float) : IsSimple (floatText x) := by
  have htext : IsSimple (String.ofList (Double.ofBits x.toBits.toNat).text) :=
    isSimple_ofList.2 (areSimple_text _)
  unfold floatText
  dsimp only
  split
  · split
    · decide
    · split <;> decide
  · split
    · exact isSimple_append.2 ⟨by decide, htext⟩
    · exact htext

end ThreeBlock.Decimal

namespace ThreeBlock.Json

open Text (AreSimple IsSimple areSimple_append areSimple_cons areSimple_flatMap areSimple_hexDigits
  areSimple_ite areSimple_replicate isSimple_append isSimple_intercalate isSimple_ofList)

/-! ## Strings -/

theorem areSimple_unitEscape (n : Nat) : AreSimple (unitEscape n) := by
  rw [unitEscape, areSimple_cons, areSimple_cons]
  exact ⟨by decide, by decide, areSimple_hexDigits 4 n⟩

theorem areSimple_stringChar (c : Char) : AreSimple (stringChar c) := by
  unfold stringChar
  -- The short escapes come first.
  iterate 7 refine areSimple_ite (fun _ => by decide) fun _ => ?_
  refine areSimple_ite (fun hshown => ?_) fun _ => areSimple_ite (fun _ => ?_) fun _ => ?_
  · rw [Bool.and_eq_true, decide_eq_true_eq, decide_eq_true_eq] at hshown
    exact areSimple_cons.2 ⟨Text.isSimple_of_toNat (by omega), .nil⟩
  · exact areSimple_unitEscape _
  · exact areSimple_append.2 ⟨areSimple_unitEscape _, areSimple_unitEscape _⟩

theorem isSimple_quoted {cs : List Char} (h : AreSimple cs) :
    IsSimple (String.ofList ('"' :: cs ++ ['"'])) := by
  rw [isSimple_ofList, areSimple_append, areSimple_cons]
  exact ⟨⟨by decide, h⟩, by decide⟩

theorem isSimple_string (s : String) : IsSimple (string s) :=
  isSimple_quoted (areSimple_flatMap fun c _ => areSimple_stringChar c)

theorem isSimple_pointString (ps : Text.Points) : IsSimple (pointString ps) := by
  refine isSimple_quoted (areSimple_flatMap fun n _ => ?_)
  split
  · exact areSimple_stringChar _
  · exact areSimple_unitEscape n

/-! ## Values -/

theorem isSimple_floatText (x : Float) : IsSimple (floatText x) := by
  have htext := Decimal.isSimple_floatText x
  unfold floatText
  dsimp only
  split
  · decide
  · split
    · decide
    · split
      · decide
      · exact htext

theorem Style.isSimple_lead (style : Style) (depth : Nat) : IsSimple (style.lead depth) := by
  cases style with
  | oneLine => exact Text.AreSimple.nil
  | indented =>
    exact isSimple_append.2 ⟨by decide, isSimple_ofList.2 (areSimple_replicate _ (by decide))⟩

theorem Style.isSimple_enclose (style : Style) (depth : Nat) {opening closing : String}
    (hopening : IsSimple opening) (hclosing : IsSimple closing) {items : List String}
    (h : ∀ item ∈ items, IsSimple item) :
    IsSimple (style.enclose depth opening closing items) := by
  have hbetween : IsSimple style.between := by cases style <;> decide
  have hitems : ∀ item ∈ items.map fun i => style.lead (depth + 1) ++ i, IsSimple item := by
    intro item hitem
    obtain ⟨i, hi, rfl⟩ := List.mem_map.1 hitem
    exact isSimple_append.2 ⟨style.isSimple_lead _, h i hi⟩
  unfold enclose
  split
  · exact isSimple_append.2 ⟨hopening, hclosing⟩
  · rw [isSimple_append, isSimple_append, isSimple_append]
    exact ⟨⟨⟨hopening, isSimple_intercalate hbetween hitems⟩, style.isSimple_lead _⟩, hclosing⟩

mutual

/-- A value is written in simple text, by induction on its depth. -/
theorem isSimple_write (style : Style) (depth : Nat) (v : Value) :
    IsSimple (write style depth v) := by
  cases v with
  | null | loop => exact show IsSimple "null" by decide
  | bool b =>
    cases b with
    | false => exact show IsSimple "false" by decide
    | true => exact show IsSimple "true" by decide
  | int n => exact Text.isSimple_intText n
  | float x => exact isSimple_floatText x
  | text s => exact isSimple_string s
  | rough ps => exact isSimple_pointString ps
  | bytes bs => exact isSimple_string _
  | day d => exact isSimple_string _
  | moment m => exact isSimple_string _
  | list items | set items | tuple items =>
    exact style.isSimple_enclose depth (by decide) (by decide)
      (isSimple_writeItems style (depth + 1) items)
  | map entries =>
    exact style.isSimple_enclose depth (by decide) (by decide)
      (isSimple_writeEntries style (depth + 1) entries)

theorem isSimple_writeItems (style : Style) (depth : Nat) (vs : List Value) :
    ∀ item ∈ writeItems style depth vs, IsSimple item := by
  cases vs with
  | nil => exact List.forall_mem_nil _
  | cons v vs =>
    exact List.forall_mem_cons.2 ⟨isSimple_write style depth v, isSimple_writeItems style depth vs⟩

theorem isSimple_writeEntries (style : Style) (depth : Nat) (es : List (Value × Value)) :
    ∀ item ∈ writeEntries style depth es, IsSimple item := by
  cases es with
  | nil => exact List.forall_mem_nil _
  | cons e es =>
    obtain ⟨k, v⟩ := e
    have hentry : IsSimple (string k.plain ++ ": " ++ write style depth v) := by
      rw [isSimple_append, isSimple_append]
      exact ⟨⟨isSimple_string _, by decide⟩, isSimple_write style depth v⟩
    exact List.forall_mem_cons.2 ⟨hentry, isSimple_writeEntries style depth es⟩

end

theorem isPage_page (v : Value) : Text.IsPage (page v) :=
  Text.isPage_append_line (isSimple_write .indented 0 v)

end ThreeBlock.Json
