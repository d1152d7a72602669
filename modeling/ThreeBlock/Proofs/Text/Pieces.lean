-- A file read bit by bit. A file that is text breaks off only where it is cut short,
-- however its bytes fall into portions. Of a short file that is none no piece is read
-- at all.
import ThreeBlock.Proofs.Rows
import ThreeBlock.Proofs.Text.Decoding
import ThreeBlock.Proofs.Text.Lines
import ThreeBlock.Text.Pieces
namespace ThreeBlock.Text

/-! ## Portions -/

theorem decodePortion_eq_ok_iff {bytes : Bytes} {last : Bool} {cs : List Char} {held : Bytes} :
    decodePortion bytes last = .ok (cs, held) ↔
      decoded? bytes = some (cs, held) ∧ (last = true → held = []) := by
  unfold decodePortion decoded?
  cases decodeFrom 0 bytes with
  | error e => simp [Except.toOption, bind, Except.bind]
  | ok r =>
    obtain ⟨ds, rest⟩ := r
    simp only [bind, Except.bind, Except.toOption]
    cases herror : heldError 0 rest with
    | none =>
      rw [heldError_eq_none_iff] at herror
      subst herror
      simp only [pure, Except.pure]
      grind
    | some e =>
      have hrest : rest ≠ [] := by
        rintro rfl
        cases herror
      cases last with
      | false => simp [pure, Except.pure]
      | true =>
        simp only [if_true, throw, throwThe, MonadExceptOf.throw]
        grind

section Intakes

variable {ε : Type} {i : Intake ε}

theorem take_portion_eq_nil_iff (i : Intake ε) (wanted : Nat) :
    i.bytes.take (i.portion wanted) = [] ↔ i.bytes = [] := by
  have hportion : portionSize ≤ i.portion wanted := Nat.le_max_left _ _
  unfold portionSize at hportion
  rw [List.take_eq_nil_iff]
  constructor
  · rintro (h | h)
    · omega
    · exact h
  · exact .inr

/-! ## Files that are text -/

/-- The bytes that were not read yet are text. -/
def Intake.IsText (i : Intake ε) : Prop := ∃ cs, decoded? (i.held ++ i.bytes) = some (cs, [])

/-- A reading of text: it goes on with text, or it is cut short where the file is. -/
inductive Intake.Fares (i : Intake ε) : Except (TextBreak ε) (Intake ε) → Prop
  | goesOn {more : Intake ε} : more.IsText → more.cut = i.cut → i.Fares (.ok more)
  | cut {e : ε} : i.cut = some e → i.Fares (.error (.cut e))

theorem exists_takeIn (h : i.IsText) (wanted : Nat) :
    ∃ more, i.takeIn (i.bytes.take (i.portion wanted)) = .ok more ∧ more.IsText ∧
      more.cut = i.cut := by
  obtain ⟨cs, hcs⟩ := h
  unfold Intake.takeIn
  dsimp only
  set portion := i.bytes.take (i.portion wanted) with hportion
  have hsplit : portion ++ i.bytes.drop portion.length = i.bytes :=
    List.prefix_iff_eq_append.1 (List.take_prefix _ _)
  rw [← hsplit, ← List.append_assoc, decoded?_append] at hcs
  obtain ⟨⟨ds, held⟩, hds, hrest⟩ := Option.bind_eq_some_iff.1 hcs
  obtain ⟨⟨more, rest⟩, hmore, heq⟩ := Option.map_eq_some_iff.1 hrest
  cases heq
  have hlast : portion.isEmpty = true → held = [] := by
    intro hempty
    have hbytes : i.bytes = [] :=
      (take_portion_eq_nil_iff i wanted).1 (List.isEmpty_iff.1 hempty)
    rw [hbytes, List.drop_nil, List.append_nil, decoded?_held hds] at hmore
    cases hmore
    rfl
  rw [decodePortion_eq_ok_iff.2 ⟨hds, hlast⟩]
  exact ⟨_, rfl, ⟨more, hmore⟩, rfl⟩

theorem fares_fetch (h : i.IsText) (wanted : Nat) : i.Fares (i.fetch wanted) := by
  unfold Intake.fetch
  dsimp only
  split
  · next hcut => exact .cut hcut
  · obtain ⟨more, htaken, hmore, hcut⟩ := exists_takeIn h wanted
    rw [htaken]
    exact .goesOn hmore hcut

theorem fill_succ (i : Intake ε) (n : Nat) :
    i.fill (n + 1) =
      if pieceLength ≤ i.ready.length then .ok i
      else (i.fetch (pieceLength - i.ready.length)).bind fun more =>
        if i.bytes.isEmpty then .ok more else more.fill n := by
  rw [Intake.fill]
  rfl

theorem fares_fill (n : Nat) (h : i.IsText) : i.Fares (i.fill n) := by
  induction n generalizing i with
  | zero => exact .goesOn h rfl
  | succ n ih =>
    rw [fill_succ]
    split
    · exact .goesOn h rfl
    · have hfetch := fares_fetch h (pieceLength - i.ready.length)
      cases hfetched : i.fetch (pieceLength - i.ready.length) with
      | error b =>
        rw [hfetched] at hfetch
        exact hfetch
      | ok more =>
        rw [hfetched] at hfetch
        dsimp only [Except.bind]
        cases hfetch with
        | goesOn hmore hcut =>
          split
          · exact .goesOn hmore hcut
          · have hrest := ih hmore
            cases hfill : more.fill n with
            | error b =>
              rw [hfill] at hrest
              cases hrest with
              | cut he => exact .cut (hcut.symm.trans he)
            | ok last =>
              rw [hfill] at hrest
              cases hrest with
              | goesOn hlast hcut' => exact .goesOn hlast (hcut'.trans hcut)

/-- Text breaks off at nothing but the end of a file that is cut short. -/
theorem break_of_isText (n : Nat) (h : i.IsText) {b : TextBreak ε} (hb : (i.pieces n).2 = some b) :
    ∃ e, i.cut = some e ∧ b = .cut e := by
  induction n generalizing i with
  | zero => cases hb
  | succ n ih =>
    unfold Intake.pieces at hb
    have hfares := fares_fill (i.bytes.length + 2) h
    cases hfill : i.fill (i.bytes.length + 2) with
    | error b' =>
      rw [hfill] at hb hfares
      cases hb
      cases hfares with
      | cut he => exact ⟨_, he, rfl⟩
    | ok more =>
      rw [hfill] at hb hfares
      dsimp only at hb
      cases hfares with
      | goesOn hmore hcut =>
        split at hb
        · cases hb
        · obtain ⟨e, he, rfl⟩ := ih (i := { more with ready := more.ready.drop pieceLength })
            hmore hb
          exact ⟨e, hcut.symm.trans he, rfl⟩

/-- A file that breaks off at bytes that are no text is none. -/
theorem decode_ne_of_break {bytes : Bytes} {cut : Option ε} {e : DecodeError}
    (h : (piecesOf bytes cut).2 = some (.undecodable e)) (cs : List Char) :
    decode bytes ≠ .ok cs := by
  intro hdecode
  obtain ⟨_, _, hb⟩ := break_of_isText (i := { bytes, cut }) _ ⟨cs, decode_eq_ok_iff.1 hdecode⟩ h
  cases hb

/-! ## Short files that are none -/

theorem length_unifyBreaks_le (cs : List Char) : (unifyBreaks cs).length ≤ cs.length := by
  fun_induction unifyBreaks cs <;> simp only [List.length_nil, List.length_cons] <;> omega

theorem length_settleBreaks_le (cs : List Char) :
    (settleBreaks false false cs).1.length ≤ cs.length := by
  simp only [settleBreaks, Bool.false_and, Bool.false_or, Bool.false_eq_true, if_false]
  split
  · have h := length_unifyBreaks_le cs.dropLast
    rw [List.length_dropLast] at h
    omega
  · exact length_unifyBreaks_le cs

/-- The bytes of a short file are fetched at once. -/
theorem take_portion_of_short (h : i.bytes.length ≤ pieceLength) (wanted : Nat) :
    i.bytes.take (i.portion wanted) = i.bytes := by
  have hportion : portionSize ≤ i.portion wanted := Nat.le_max_left _ _
  unfold portionSize at hportion
  unfold pieceLength at h
  exact List.take_of_length_le (by omega)

/-- What a portion more leads to. -/
theorem fetch_eq_ok {wanted : Nat} {more : Intake ε} (h : i.fetch wanted = .ok more) :
    ∃ cs, decoded? (i.held ++ i.bytes.take (i.portion wanted)) = some (cs, more.held) ∧
      (i.bytes = [] → more.held = []) ∧
      more.bytes = i.bytes.drop (i.bytes.take (i.portion wanted)).length ∧
      more.ready = i.ready ++
        (settleBreaks i.waits (i.bytes.take (i.portion wanted)).isEmpty cs).1 ∧
      more.cut = i.cut := by
  have htaken : i.takeIn (i.bytes.take (i.portion wanted)) = .ok more := by
    unfold Intake.fetch at h
    dsimp only at h
    split at h
    · cases h
    · exact mapError_eq_ok_iff.1 h
  unfold Intake.takeIn at htaken
  obtain ⟨⟨cs, held⟩, hportion, heq⟩ := bind_eq_ok_iff.1 htaken
  cases heq
  obtain ⟨hdecoded, hlast⟩ := decodePortion_eq_ok_iff.1 hportion
  refine ⟨cs, hdecoded, ?_, rfl, rfl, rfl⟩
  intro hbytes
  exact hlast (List.isEmpty_iff.2 ((take_portion_eq_nil_iff i wanted).2 hbytes))

/-- What is held back when all bytes are fetched is refused. -/
theorem fill_of_held {n : Nat} {last : Intake ε} (hbytes : i.bytes = [])
    (hheld : decoded? i.held = some ([], i.held)) (hready : i.ready.length < pieceLength)
    (h : i.fill (n + 1) = .ok last) : i.held = [] := by
  rw [fill_succ, if_neg (by omega)] at h
  obtain ⟨more, hfetch, -⟩ := bind_eq_ok_iff.1 h
  obtain ⟨cs, hdecoded, hlast, -⟩ := fetch_eq_ok hfetch
  rw [hbytes, List.take_nil, List.append_nil, hheld, Option.some_inj, Prod.mk.injEq] at hdecoded
  rw [hdecoded.2]
  exact hlast hbytes

/-- A file that is not cut short breaks off at its bytes alone. -/
theorem exists_undecodable_of_fill {n : Nat} {b : TextBreak ε} (hcut : i.cut = none)
    (h : i.fill n = .error b) : ∃ e, b = .undecodable e := by
  induction n generalizing i with
  | zero => cases h
  | succ n ih =>
    rw [fill_succ] at h
    split at h
    · cases h
    · cases hfetch : i.fetch (pieceLength - i.ready.length) with
      | error b' =>
        rw [hfetch] at h
        cases h
        unfold Intake.fetch at hfetch
        dsimp only at hfetch
        split at hfetch
        · next hsome =>
          rw [hcut] at hsome
          cases hsome
        · obtain ⟨e, -, rfl⟩ := mapError_eq_error_iff.1 hfetch
          exact ⟨e, rfl⟩
      | ok more =>
        rw [hfetch] at h
        obtain ⟨-, -, -, -, -, hsame⟩ := fetch_eq_ok hfetch
        dsimp only [Except.bind] at h
        split at h
        · cases h
        · exact ih (hsame.trans hcut) h

/-- Bytes that are no text and fit in one piece are refused before a piece is read. -/
theorem piecesOf_no_text {bytes : Bytes} (hlength : bytes.length ≤ pieceLength)
    (h : ∀ cs, decode bytes ≠ .ok cs) :
    ∃ e, piecesOf bytes (none : Option ε) = ([], some (.undecodable e)) := by
  unfold piecesOf Intake.pieces
  cases hfill : Intake.fill (ε := ε) (bytes.length + 2) { bytes, cut := none } with
  | error b =>
    obtain ⟨e, rfl⟩ := exists_undecodable_of_fill rfl hfill
    exact ⟨e, rfl⟩
  | ok last =>
    exfalso
    rw [fill_succ, if_neg (by simp [pieceLength])] at hfill
    obtain ⟨more, hfetch, hfill⟩ := bind_eq_ok_iff.1 hfill
    obtain ⟨cs, hdecoded, -, hrest, hready, -⟩ := fetch_eq_ok hfetch
    rw [take_portion_of_short hlength] at hdecoded hrest hready
    dsimp only [List.nil_append] at hdecoded hrest hready hfill
    rw [List.drop_length] at hrest
    have hne : bytes ≠ [] := by
      rintro rfl
      exact h [] (decode_eq_ok_iff.2 decoded?_nil)
    have hheld : more.held ≠ [] := by
      intro hnil
      rw [hnil] at hdecoded
      exact h cs (decode_eq_ok_iff.2 hdecoded)
    have hpos := List.length_pos_iff.2 hheld
    have hcount := length_of_decoded? hdecoded
    have hsettled := length_settleBreaks_le cs
    rw [if_neg (by simp [hne])] at hfill
    rw [List.isEmpty_eq_false_iff.2 hne] at hready
    refine hheld (fill_of_held hrest (decoded?_held hdecoded) ?_ hfill)
    rw [hready]
    omega

/-! ## Short files that are text -/

/-- Everything was fetched, and nothing waits. -/
structure Intake.IsSpent (i : Intake ε) : Prop where
  bytes : i.bytes = []
  held : i.held = []
  waits : i.waits = false
  cut : i.cut = none

theorem fill_of_isSpent (h : i.IsSpent) (n : Nat) :
    ∃ more, i.fill (n + 1) = .ok more ∧ more.IsSpent ∧ more.ready = i.ready := by
  rw [fill_succ]
  split
  · exact ⟨i, rfl, h, rfl⟩
  · have hfetch : i.fetch (pieceLength - i.ready.length) = .ok { i with ratio := 0 } := by
      obtain ⟨bytes, cut, held, waits, ready, ratio⟩ := i
      obtain ⟨rfl, rfl, rfl, rfl⟩ := h
      simp [Intake.fetch, Intake.takeIn, decodePortion_eq_ok_iff.2 ⟨decoded?_nil, fun _ => rfl⟩,
        settleBreaks, unifyBreaks, bind, Except.bind, pure, Except.pure, Except.mapError]
    rw [hfetch]
    exact ⟨{ i with ratio := 0 }, by simp [Except.bind, h.bytes], ⟨h.1, h.2, h.3, h.4⟩, rfl⟩

theorem pieces_of_isSpent (h : i.IsSpent) (hready : i.ready = []) (n : Nat) :
    i.pieces n = ([], none) := by
  cases n with
  | zero => rfl
  | succ n =>
    obtain ⟨more, hfill, -, hmore⟩ := fill_of_isSpent h (i.bytes.length + 1)
    unfold Intake.pieces
    rw [hfill]
    simp [hmore, hready]

theorem unifyBreaks_ne_nil {cs : List Char} (h : cs ≠ []) : unifyBreaks cs ≠ [] := by
  intro hnil
  unfold unifyBreaks at hnil
  split at hnil <;> simp_all

section Short

variable {bytes : Bytes} {cs : List Char} (hlength : bytes.length ≤ pieceLength)
  (h : decode bytes = .ok cs) (hne : cs ≠ []) (hend : cs.getLast? ≠ some '\r')
include hlength h hne hend

/-- The text is at hand after one portion, unless it ends in half a break. -/
theorem exists_fetch_text (wanted : Nat) : ∃ more : Intake ε,
    Intake.fetch { bytes, cut := none } wanted = .ok more ∧ more.IsSpent ∧
      more.ready = unifyBreaks cs := by
  have hdecoded := decode_eq_ok_iff.1 h
  have hcount := length_of_decoded? hdecoded
  have hpos := List.length_pos_iff.2 hne
  have hbytes : bytes ≠ [] := List.ne_nil_of_length_pos (by omega)
  have hportion : decodePortion bytes false = .ok (cs, []) :=
    decodePortion_eq_ok_iff.2 ⟨hdecoded, fun h => by cases h⟩
  unfold Intake.fetch
  dsimp only
  rw [take_portion_of_short hlength, List.isEmpty_eq_false_iff.2 hbytes]
  unfold Intake.takeIn
  dsimp only [List.nil_append]
  rw [List.isEmpty_eq_false_iff.2 hbytes, hportion]
  exact ⟨_, rfl, ⟨List.drop_length, rfl, by simp [settleBreaks, hend], rfl⟩,
    by simp [settleBreaks, hend]⟩

/-- A short text is read as one piece, unless it ends in half a break. -/
theorem piecesOf_text : piecesOf bytes (none : Option ε) = ([unifyBreaks cs], none) := by
  have hcount := length_of_decoded? (decode_eq_ok_iff.1 h)
  have hpos := List.length_pos_iff.2 hne
  have hbytes : bytes ≠ [] := List.ne_nil_of_length_pos (by omega)
  obtain ⟨more, hmore, hspent, hready⟩ :=
    exists_fetch_text (ε := ε) hlength h hne hend (pieceLength - 0)
  obtain ⟨last, hlast, hspent, hsame⟩ := fill_of_isSpent hspent bytes.length
  rw [hready] at hsame
  have hfill : Intake.fill (ε := ε) (bytes.length + 2) { bytes, cut := none } = .ok last := by
    rw [fill_succ, if_neg (by simp [pieceLength])]
    dsimp only [List.length_nil]
    rw [hmore]
    dsimp only [Except.bind]
    rw [if_neg (by simp [hbytes]), hlast]
  have hshort : last.ready.length ≤ pieceLength := by
    rw [hsame]
    exact Nat.le_trans (length_unifyBreaks_le cs) (by omega)
  have hrest := pieces_of_isSpent (i := { last with ready := last.ready.drop pieceLength })
    ⟨hspent.bytes, hspent.held, hspent.waits, hspent.cut⟩ (List.drop_of_length_le hshort)
    bytes.length
  unfold piecesOf Intake.pieces
  rw [hfill]
  dsimp only
  rw [if_neg (by simp [hsame, unifyBreaks_ne_nil hne]), hrest, List.take_of_length_le hshort, hsame]

end Short

end Intakes

end ThreeBlock.Text
