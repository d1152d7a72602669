-- The layout of declarations does not count. Line feeds may become pairs of carriage
-- return and line feed, blank lines may stand between the lines, blanks around the
-- fields of a line, and empty fields behind its first: what the text is read to is the
-- same, faults and aborts with their lines and tokens included.
import Mathlib.Logic.Relation
import ThreeBlock.Proofs.Generate
import ThreeBlock.Proofs.Text.Lines
namespace ThreeBlock

/-! ## Places in a text -/

/-- Blanks that end no line, such as spaces and tabs. -/
structure IsPadding (cs : List Char) : Prop where
  gap : Text.IsGap cs
  unbroken : Text.IsUnbroken cs

/-- What ends a line: one break, or a carriage return with its line feed. -/
inductive IsLineEnd : List Char → Prop
  | single {c : Char} : Text.isLineBreak c = true → IsLineEnd [c]
  | pair : IsLineEnd ['\r', '\n']

/-- Text in front of a line. -/
inductive StartsLine : List Char → Prop
  | first : StartsLine []
  | behind (cs : List Char) {c : Char} : Text.isLineBreak c = true → StartsLine (cs ++ [c])

/-- Text behind a line, its end included. -/
inductive EndsLine : List Char → Prop
  | last : EndsLine []
  | before {c : Char} (cs : List Char) : Text.isLineBreak c = true → EndsLine (c :: cs)

/-! ## Edits -/

/-- The text with a carriage return in front of each line feed. -/
def withReturns (cs : List Char) : List Char :=
  cs.flatMap fun c => if c = '\n' then ['\r', '\n'] else [c]

/-- One edit of the fields of a line: blanks around a field, or an empty field behind
the first. -/
inductive FieldEdit : List (List Char) → List (List Char) → Prop
  | pad (fs gs : List (List Char)) (f : List Char) {before after : List Char} :
      IsPadding before → IsPadding after →
      FieldEdit (fs ++ f :: gs) (fs ++ (before ++ f ++ after) :: gs)
  | fill (f : List Char) (fs gs : List (List Char)) :
      FieldEdit (f :: (fs ++ gs)) (f :: (fs ++ [] :: gs))

/-- One edit of the layout of a text. A blank line comes in above a line or below one,
and the last one may stand without an end; the fields of a line are edited where the
line has ink. -/
inductive LayoutEdit : List Char → List Char → Prop
  | returns (cs : List Char) : LayoutEdit cs (withReturns cs)
  | above {before blank close : List Char} (after : List Char) :
      StartsLine before → IsPadding blank → IsLineEnd close →
      LayoutEdit (before ++ after) (before ++ (blank ++ close ++ after))
  | below (before : List Char) {blank close after : List Char} :
      IsPadding blank → IsLineEnd close → EndsLine after →
      LayoutEdit (before ++ after) (before ++ (close ++ blank ++ after))
  | last {before blank : List Char} : StartsLine before → IsPadding blank →
      LayoutEdit before (before ++ blank)
  | fields {before line after : List Char} {fs : List (List Char)} :
      StartsLine before → Text.IsUnbroken line → Text.hasInk line = true → EndsLine after →
      FieldEdit (Text.cut ';' line) fs →
      LayoutEdit (before ++ (line ++ after)) (before ++ ([';'].intercalate fs ++ after))

/-! ## Blank lines -/

open Text (inked inked_append_break inked_of_isUnbroken)

theorem IsPadding.inked_eq {cs : List Char} (h : IsPadding cs) : inked cs = [] := by
  have hnone : Text.hasInk cs = false := by
    simpa [Text.hasInk, Text.IsGap] using h.gap
  rw [inked_of_isUnbroken h.unbroken]
  simp [hnone]

theorem StartsLine.inked_append {before : List Char} (h : StartsLine before) (cs : List Char) :
    inked (before ++ cs) = inked before ++ inked cs := by
  cases h with
  | first => rfl
  | behind ds hc =>
    rw [List.append_assoc, List.singleton_append, inked_append_break hc, inked_append_break hc]
    simp [inked, Text.lines_nil]

theorem EndsLine.inked_append {after : List Char} (h : EndsLine after) (cs : List Char) :
    inked (cs ++ after) = inked cs ++ inked after := by
  cases h with
  | last => simp [inked, Text.lines_nil]
  | before ds hc =>
    have hhead := inked_append_break hc [] ds
    rw [List.nil_append] at hhead
    rw [inked_append_break hc, hhead]
    rfl

theorem IsLineEnd.startsLine {close : List Char} (h : IsLineEnd close) : StartsLine close := by
  cases h with
  | single hc => exact .behind [] hc
  | pair => exact .behind ['\r'] (by decide)

theorem IsLineEnd.endsLine {close : List Char} (h : IsLineEnd close) (cs : List Char) :
    EndsLine (close ++ cs) := by
  cases h with
  | single hc => exact .before cs hc
  | pair => exact .before ('\n' :: cs) (by decide)

theorem IsLineEnd.inked_eq {close : List Char} (h : IsLineEnd close) : inked close = [] := by
  cases h with
  | single hc => simpa [inked, Text.lines_nil] using inked_append_break hc [] []
  | pair => rfl

/-- A line feed with a carriage return in front of it ends no further line with ink. -/
theorem inked_withReturns (cs : List Char) : inked (withReturns cs) = inked cs := by
  -- what stands in front of the rest is taken along, up to the next break
  have hfront : ∀ ds, inked (ds ++ withReturns cs) = inked (ds ++ cs) := by
    induction cs with
    | nil => intro ds; rfl
    | cons c cs ih =>
      intro ds
      have hrest : inked (withReturns cs) = inked cs := ih []
      by_cases hfeed : c = '\n'
      · subst hfeed
        have hcons : withReturns ('\n' :: cs) = '\r' :: ([] ++ '\n' :: withReturns cs) := rfl
        rw [hcons, inked_append_break (by decide), inked_append_break (by decide),
          inked_append_break (by decide), hrest]
        rfl
      · have hcons : withReturns (c :: cs) = c :: withReturns cs := by
          simp [withReturns, hfeed]
        rw [hcons]
        by_cases hbreak : Text.isLineBreak c = true
        · rw [inked_append_break hbreak, inked_append_break hbreak, hrest]
        · have hnext := ih (ds ++ [c])
          simpa using hnext
  exact hfront []

/-! ## Fields -/

/-- What the fields of a line declare. -/
def declarationOf (fs : List (List Char)) : Declaration :=
  ⟨String.ofList (Text.trim (fs.headD [])), (Text.inkedPieces fs.tail).map String.ofList⟩

theorem ofLine_eq_declarationOf (line : List Char) :
    Declaration.ofLine line = declarationOf (Text.cut ';' line) := by
  rw [Declaration.ofLine]
  cases Text.cut ';' line <;> rfl

/-- A field stands somewhere in its line, whatever it holds. -/
theorem exists_intercalate_around (fs gs : List (List Char)) :
    ∃ front back, ∀ f, [';'].intercalate (fs ++ f :: gs) = front ++ f ++ back := by
  induction fs with
  | nil =>
    cases gs with
    | nil => exact ⟨[], [], by simp⟩
    | cons g gs => exact ⟨[], ';' :: [';'].intercalate (g :: gs), by simp⟩
  | cons e fs ih =>
    obtain ⟨front, back, h⟩ := ih
    refine ⟨e ++ ';' :: front, back, fun f => ?_⟩
    rw [List.cons_append, List.intercalate_cons_of_ne_nil (by simp), h]
    simp

/-- An empty field behind the first comes to one more semicolon. -/
theorem exists_intercalate_fill (f : List Char) (fs gs : List (List Char)) :
    ∃ front back, [';'].intercalate (f :: (fs ++ gs)) = front ++ back ∧
      [';'].intercalate (f :: (fs ++ [] :: gs)) = front ++ ';' :: back := by
  induction fs generalizing f with
  | nil =>
    cases gs with
    | nil => exact ⟨f, [], by simp⟩
    | cons g gs => exact ⟨f, ';' :: [';'].intercalate (g :: gs), by simp⟩
  | cons e fs ih =>
    obtain ⟨front, back, hplain, hfilled⟩ := ih e
    refine ⟨f ++ ';' :: front, back, ?_, ?_⟩
    · rw [List.cons_append, List.intercalate_cons_cons, hplain]
      simp
    · rw [List.cons_append, List.intercalate_cons_cons, hfilled]
      simp

namespace FieldEdit

variable {fs gs : List (List Char)}

theorem ne_nil (h : FieldEdit fs gs) : gs ≠ [] := by
  cases h with
  | pad fs gs f _ _ => simp
  | fill f fs gs => simp

/-- No field comes to hold a semicolon. -/
theorem separate (h : FieldEdit fs gs) (hfs : ∀ f ∈ fs, ';' ∉ f) : ∀ g ∈ gs, ';' ∉ g := by
  cases h with
  | pad fs gs f hbefore hafter =>
    simp only [List.forall_mem_append, List.forall_mem_cons] at hfs ⊢
    refine ⟨hfs.1, ?_, hfs.2.2⟩
    simp [Text.not_mem_gap hbefore.gap, Text.not_mem_gap hafter.gap, hfs.2.1]
  | fill f fs gs =>
    simp only [List.forall_mem_append, List.forall_mem_cons] at hfs ⊢
    exact ⟨hfs.1, hfs.2.1, List.not_mem_nil, hfs.2.2⟩

theorem declarationOf_eq (h : FieldEdit fs gs) : declarationOf gs = declarationOf fs := by
  cases h with
  | pad fs gs f hbefore hafter =>
    have htrim := Text.trim_between_gaps hbefore.gap hafter.gap f
    cases fs with
    | nil => simp only [declarationOf, List.nil_append, List.headD_cons, List.tail_cons, htrim]
    | cons e fs =>
      simp only [declarationOf, Text.inkedPieces, List.cons_append, List.headD_cons,
        List.tail_cons, List.map_append, List.map_cons, htrim]
  | fill f fs gs =>
    have hempty : Text.trim [] = [] := rfl
    simp [declarationOf, Text.inkedPieces, hempty]

/-- The line keeps its characters, and those that come in end no line. -/
theorem mem_intercalate (h : FieldEdit fs gs) :
    (∀ c ∈ [';'].intercalate fs, c ∈ [';'].intercalate gs) ∧
      ∀ c ∈ [';'].intercalate gs, c ∈ [';'].intercalate fs ∨ Text.isLineBreak c = false := by
  cases h with
  | @pad fs gs f before after hbefore hafter =>
    obtain ⟨front, back, heq⟩ := exists_intercalate_around fs gs
    simp only [heq, List.mem_append]
    refine ⟨fun c hc => by tauto, fun c hc => ?_⟩
    have hleft := hbefore.unbroken c
    have hright := hafter.unbroken c
    tauto
  | fill f fs gs =>
    obtain ⟨front, back, hplain, hfilled⟩ := exists_intercalate_fill f fs gs
    simp only [hplain, hfilled, List.mem_append, List.mem_cons]
    refine ⟨fun c hc => by tauto, ?_⟩
    rintro c (hc | rfl | hc)
    · exact Or.inl (Or.inl hc)
    · exact Or.inr (by decide)
    · exact Or.inl (Or.inr hc)

section Line

variable {line : List Char}

theorem isUnbroken (h : FieldEdit (Text.cut ';' line) gs) (hline : Text.IsUnbroken line) :
    Text.IsUnbroken ([';'].intercalate gs) := by
  intro c hc
  rcases h.mem_intercalate.2 c hc with hold | hnew
  · rw [Text.intercalate_cut] at hold
    exact hline c hold
  · exact hnew

theorem hasInk (h : FieldEdit (Text.cut ';' line) gs) (hline : Text.hasInk line = true) :
    Text.hasInk ([';'].intercalate gs) = true := by
  obtain ⟨c, hc, hink⟩ := List.any_eq_true.1 hline
  rw [← Text.intercalate_cut ';' line] at hc
  exact List.any_eq_true.2 ⟨c, h.mem_intercalate.1 c hc, hink⟩

/-- The line declares what it declared. -/
theorem ofLine_eq (h : FieldEdit (Text.cut ';' line) gs) :
    Declaration.ofLine ([';'].intercalate gs) = Declaration.ofLine line := by
  have hseparate := h.separate fun f hf => Text.not_mem_of_mem_cut hf
  rw [ofLine_eq_declarationOf, Text.cut_intercalate hseparate h.ne_nil, h.declarationOf_eq,
    ofLine_eq_declarationOf]

end Line

end FieldEdit

/-! ## Whole texts -/

/-- What the lines with ink declare. -/
def declarationsOf (cs : List Char) : List Declaration := (inked cs).map Declaration.ofLine

theorem readAll_eq (raw : String) : Declaration.readAll raw = declarationsOf raw.toList := rfl

namespace LayoutEdit

variable {cs ds : List Char}

/-- One edit leaves the declarations as they are. -/
theorem declarationsOf_eq (h : LayoutEdit cs ds) : declarationsOf ds = declarationsOf cs := by
  unfold declarationsOf
  cases h with
  | returns => rw [inked_withReturns]
  | above after hbefore hblank hclose =>
    have hends := hclose.endsLine after
    rw [hbefore.inked_append, hbefore.inked_append, List.append_assoc, hends.inked_append,
      hclose.startsLine.inked_append, hblank.inked_eq, hclose.inked_eq]
    rfl
  | below before hblank hclose hafter =>
    have hends : ∀ rest, EndsLine (_ ++ rest) := hclose.endsLine
    rw [hafter.inked_append, ← List.append_assoc, hafter.inked_append, (hends _).inked_append,
      hclose.startsLine.inked_append, hblank.inked_eq, hclose.inked_eq]
    simp
  | last hbefore hblank =>
    rw [hbefore.inked_append, hblank.inked_eq, List.append_nil]
  | @fields before line after fs hbefore hunbroken hink hafter hedit =>
    have hline : inked line = [line] := by
      rw [inked_of_isUnbroken hunbroken]
      simp [hink]
    have hnew : inked ([';'].intercalate fs) = [[';'].intercalate fs] := by
      rw [inked_of_isUnbroken (hedit.isUnbroken hunbroken)]
      simp [hedit.hasInk hink]
    rw [hbefore.inked_append, hbefore.inked_append, hafter.inked_append, hafter.inked_append,
      hline, hnew]
    simp [hedit.ofLine_eq]

/-- So do any edits, one after the other. -/
theorem declarationsOf_eq_of_edits (h : Relation.ReflTransGen LayoutEdit cs ds) :
    declarationsOf ds = declarationsOf cs := by
  induction h with
  | refl => rfl
  | tail _ hedit ih => rw [hedit.declarationsOf_eq, ih]

end LayoutEdit

/-- Edits of the layout change nothing in what a text is read to, be it a machine, a
fault or an abort, and nothing in what is generated from it. -/
theorem layout_does_not_count {raw raw' : String}
    (h : Relation.ReflTransGen LayoutEdit raw.toList raw'.toList) :
    readDeclarations raw' = readDeclarations raw ∧
      ∀ settings, Request.generate settings (.inline (some raw')) =
        Request.generate settings (.inline (some raw)) := by
  have hread : readDeclarations raw' = readDeclarations raw := by
    rw [readDeclarations, readAll_eq, LayoutEdit.declarationsOf_eq_of_edits h, ← readAll_eq,
      ← readDeclarations]
  refine ⟨hread, fun settings => Request.generate_eq_of_read_eq ?_ settings⟩
  rw [Request.value_inline, Request.value_inline, Option.getD_some, Option.getD_some, hread]

/-- A blank line, a pair that ends a line, padding and an empty field stand before the
bad token, and it is told with the second line all the same. -/
theorem the_second_line_is_told_behind_a_blank_one :
    Relation.ReflTransGen LayoutEdit "A;1-2\nB;9-1".toList "A;1-2\r\n\t\nB;; 9-1\t".toList ∧
      readDeclarations "A;1-2\r\n\t\nB;; 9-1\t" =
        .error (.fault (.sourceMismatch 2 "9-1" "B")) := by
  have hspace : IsPadding [' '] := ⟨by decide, by decide⟩
  have htab : IsPadding ['\t'] := ⟨by decide, by decide⟩
  have hend : IsLineEnd ['\n'] := .single (by decide)
  have hfirst : StartsLine "A;1-2\r\n".toList := .behind "A;1-2\r".toList (by decide)
  have hsecond : StartsLine "A;1-2\r\n\t\n".toList := .behind "A;1-2\r\n\t".toList (by decide)
  have hreturns : LayoutEdit "A;1-2\nB;9-1".toList "A;1-2\r\nB;9-1".toList := .returns _
  have hblank : LayoutEdit "A;1-2\r\nB;9-1".toList "A;1-2\r\n\t\nB;9-1".toList :=
    .above "B;9-1".toList hfirst htab hend
  have hfield : FieldEdit (Text.cut ';' "B;9-1".toList) ["B".toList, " 9-1\t".toList] :=
    .pad ["B".toList] [] "9-1".toList hspace htab
  have hpad : LayoutEdit "A;1-2\r\n\t\nB;9-1".toList "A;1-2\r\n\t\nB; 9-1\t".toList :=
    .fields hsecond (by decide) (by decide) .last hfield
  have hempty : FieldEdit (Text.cut ';' "B; 9-1\t".toList) ["B".toList, [], " 9-1\t".toList] :=
    .fill "B".toList [] [" 9-1\t".toList]
  have hfill : LayoutEdit "A;1-2\r\n\t\nB; 9-1\t".toList "A;1-2\r\n\t\nB;; 9-1\t".toList :=
    .fields hsecond (by decide) (by decide) .last hempty
  have hedits : Relation.ReflTransGen LayoutEdit "A;1-2\nB;9-1".toList
      "A;1-2\r\n\t\nB;; 9-1\t".toList :=
    (((Relation.ReflTransGen.single hreturns).tail hblank).tail hpad).tail hfill
  exact ⟨hedits, (layout_does_not_count hedits).1⟩

end ThreeBlock
