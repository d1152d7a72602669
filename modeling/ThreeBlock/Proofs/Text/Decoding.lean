-- Bytes decoded portion by portion. What a portion settles, a character or a fault,
-- no byte behind it unsettles; what it holds back is decoded with the bytes behind.
import ThreeBlock.Text.Utf8
namespace ThreeBlock.Text

/-! ## One character -/

theorem twoBytes_append {a : UInt8} {bs : Bytes} (h : twoBytes a bs ≠ .short) (more : Bytes) :
    twoBytes a (bs ++ more) = twoBytes a bs := by
  cases bs with
  | nil => exact absurd rfl h
  | cons b bs => rfl

theorem threeBytes_append {a : UInt8} {bs : Bytes} (h : threeBytes a bs ≠ .short) (more : Bytes) :
    threeBytes a (bs ++ more) = threeBytes a bs := by
  rcases bs with _ | ⟨b, _ | ⟨c, bs⟩⟩
  · exact absurd rfl h
  · unfold threeBytes at h ⊢
    by_cases hb : mayFollowThree a b = true
    · simp [hb] at h
    · simp [hb]
  · rfl

theorem fourBytes_append {a : UInt8} {bs : Bytes} (h : fourBytes a bs ≠ .short) (more : Bytes) :
    fourBytes a (bs ++ more) = fourBytes a bs := by
  rcases bs with _ | ⟨b, _ | ⟨c, _ | ⟨d, bs⟩⟩⟩
  · exact absurd rfl h
  · unfold fourBytes at h ⊢
    by_cases hb : mayFollowFour a b = true
    · simp [hb] at h
    · simp [hb]
  · unfold fourBytes at h ⊢
    by_cases hb : mayFollowFour a b = true
    · by_cases hc : isContinuation c = true
      · simp [hb, hc] at h
      · simp [hb, hc]
    · simp [hb]
  · rfl

/-- What is settled by some bytes stays settled. -/
theorem utf8Step_append {a : UInt8} {bs : Bytes} (h : utf8Step a bs ≠ .short) (more : Bytes) :
    utf8Step a (bs ++ more) = utf8Step a bs := by
  unfold utf8Step at h ⊢
  split
  · rfl
  · split
    · rfl
    · split
      · simp_all [twoBytes_append]
      · split
        · simp_all [threeBytes_append]
        · split
          · simp_all [fourBytes_append]
          · rfl

theorem used_le {a : UInt8} {bs : Bytes} {c : Char} {used : Nat}
    (h : utf8Step a bs = .char c used) : used ≤ bs.length + 1 := by
  unfold utf8Step badStart at h
  split at h
  · cases h
    omega
  · split at h
    · cases h
    · split at h
      · unfold twoBytes badContinuation at h
        split at h
        · cases h
        · split at h
          · cases h
            simp
          · cases h
      · split at h
        · unfold threeBytes badContinuation at h
          grind
        · split at h
          · unfold fourBytes badContinuation at h
            grind
          · cases h

/-- The one fault that is held back is held back as long as nothing is behind it. -/
theorem isHeld_append {a : UInt8} {bs : Bytes} (h : isHeld a bs = false) (more : Bytes) :
    isHeld a (bs ++ more) = false := by
  have hshort : utf8Step a bs ≠ .short := by
    intro hs
    rw [isHeld, hs] at h
    cases h
  unfold isHeld at h ⊢
  rw [utf8Step_append hshort]
  cases hstep : utf8Step a bs with
  | char c used => rfl
  | short => exact absurd hstep hshort
  | bad reason width =>
    rw [hstep] at h
    rcases bs with _ | ⟨b, _ | ⟨c, bs⟩⟩
    · have ha : a ≠ 0xED := by
        rintro rfl
        exact hshort rfl
      simp [ha]
    · simp_all
    · simp

/-! ## All characters -/

/-- What some bytes decode to, wherever they stand: characters, and the bytes at the
end that are held back. -/
def decoded? (bytes : Bytes) : Option (List Char × Bytes) := (decodeFrom 0 bytes).toOption

theorem toOption_map {ε α β : Type} (f : α → β) (x : Except ε α) :
    (x.map f).toOption = x.toOption.map f := by
  cases x <;> rfl

theorem toOption_decodeFrom (position : Nat) (bytes : Bytes) :
    (decodeFrom position bytes).toOption = decoded? bytes := by
  suffices h : ∀ q, (decodeFrom position bytes).toOption = (decodeFrom q bytes).toOption from h 0
  fun_induction decodeFrom position bytes with
  | case1 position =>
    intro q
    rw [decodeFrom]
  | case2 position a bs hheld =>
    intro q
    rw [decodeFrom, if_pos hheld]
  | case3 position a bs hheld c used hstep ih =>
    intro q
    rw [decodeFrom, if_neg hheld, hstep, toOption_map, toOption_map, ih (q + used)]
  | case4 position a bs hheld hstep =>
    intro q
    rw [decodeFrom, if_neg hheld, hstep]
  | case5 position a bs hheld reason width hstep =>
    intro q
    rw [decodeFrom, if_neg hheld, hstep]
    rfl

@[simp] theorem decoded?_nil : decoded? [] = some ([], []) := by
  rw [decoded?, decodeFrom]
  rfl

theorem decoded?_of_isHeld {a : UInt8} {bs : Bytes} (h : isHeld a bs = true) :
    decoded? (a :: bs) = some ([], a :: bs) := by
  rw [decoded?, decodeFrom, if_pos h]
  rfl

theorem decoded?_of_char {a : UInt8} {bs : Bytes} {c : Char} {used : Nat}
    (h : utf8Step a bs = .char c used) :
    decoded? (a :: bs) = (decoded? (bs.drop (used - 1))).map fun r => (c :: r.1, r.2) := by
  have hheld : ¬ isHeld a bs = true := by simp [isHeld, h]
  rw [decoded?, decodeFrom, if_neg hheld, h]
  dsimp only
  rw [toOption_map, toOption_decodeFrom]

theorem decoded?_of_bad {a : UInt8} {bs : Bytes} {reason : String} {width : Nat}
    (h : utf8Step a bs = .bad reason width) (hheld : isHeld a bs = false) :
    decoded? (a :: bs) = none := by
  rw [decoded?, decodeFrom, if_neg (by simp [hheld]), h]
  rfl

/-- Either the first byte is held back with all that follows, or it starts a character,
or it starts none. -/
theorem step_cases (a : UInt8) (bs : Bytes) :
    isHeld a bs = true ∨ (∃ c used, utf8Step a bs = .char c used) ∨
      (isHeld a bs = false ∧ ∃ reason width, utf8Step a bs = .bad reason width) := by
  cases hstep : utf8Step a bs with
  | char c used => exact .inr (.inl ⟨c, used, rfl⟩)
  | short => exact .inl (by rw [isHeld, hstep])
  | bad reason width =>
    cases hheld : isHeld a bs with
    | true => exact .inl rfl
    | false => exact .inr (.inr ⟨rfl, reason, width, rfl⟩)

theorem drop_append_of_used {a : UInt8} {bs : Bytes} {c : Char} {used : Nat}
    (h : utf8Step a bs = .char c used) (more : Bytes) :
    (bs ++ more).drop (used - 1) = bs.drop (used - 1) ++ more := by
  have hused := used_le h
  exact List.drop_append_of_le_length (by omega)

/-- Bytes decode as their first part and what it holds back with the bytes behind. -/
theorem decoded?_append (as bs : Bytes) :
    decoded? (as ++ bs) =
      (decoded? as).bind fun r => (decoded? (r.2 ++ bs)).map fun q => (r.1 ++ q.1, q.2) := by
  match as with
  | [] => simp
  | a :: as =>
    obtain hheld | ⟨c, used, hstep⟩ | ⟨hheld, reason, width, hstep⟩ := step_cases a as
    · rw [decoded?_of_isHeld hheld]
      simp
    · have hstep' : utf8Step a (as ++ bs) = .char c used := by
        rw [utf8Step_append (by simp [hstep]), hstep]
      have ih := decoded?_append (as.drop (used - 1)) bs
      rw [List.cons_append, decoded?_of_char hstep', decoded?_of_char hstep,
        drop_append_of_used hstep, ih]
      cases decoded? (as.drop (used - 1)) with
      | none => rfl
      | some r =>
        simp only [Option.map_some, Option.bind_some, Option.map_map]
        rfl
    · have hstep' : utf8Step a (as ++ bs) = .bad reason width := by
        rw [utf8Step_append (by simp [hstep]), hstep]
      rw [List.cons_append, decoded?_of_bad hstep' (isHeld_append hheld bs),
        decoded?_of_bad hstep hheld]
      rfl
termination_by as.length
decreasing_by simp only [List.length_drop, List.length_cons]; omega

/-- What is held back is held back again. -/
theorem decoded?_held {bytes held : Bytes} {cs : List Char}
    (h : decoded? bytes = some (cs, held)) : decoded? held = some ([], held) := by
  have happ := decoded?_append bytes []
  rw [List.append_nil, h] at happ
  simp only [Option.bind_some, List.append_nil] at happ
  obtain ⟨⟨ds, held'⟩, hheld, heq⟩ := Option.map_eq_some_iff.1 happ.symm
  simp only [Prod.mk.injEq, List.append_right_eq_self] at heq
  obtain ⟨rfl, rfl⟩ := heq
  exact hheld

theorem length_of_decoded? {bytes held : Bytes} {cs : List Char}
    (h : decoded? bytes = some (cs, held)) : cs.length + held.length ≤ bytes.length := by
  match bytes with
  | [] =>
    cases (decoded?_nil.symm.trans h)
    simp
  | a :: bs =>
    obtain hheld | ⟨c, used, hstep⟩ | ⟨hheld, reason, width, hstep⟩ := step_cases a bs
    · rw [decoded?_of_isHeld hheld] at h
      cases h
      simp
    · rw [decoded?_of_char hstep] at h
      obtain ⟨⟨ds, held'⟩, hrest, heq⟩ := Option.map_eq_some_iff.1 h
      cases heq
      have ih := length_of_decoded? hrest
      simp only [List.length_drop] at ih
      simp only [List.length_cons]
      omega
    · rw [decoded?_of_bad hstep hheld] at h
      cases h
termination_by bytes.length
decreasing_by simp only [List.length_drop, List.length_cons]; omega

theorem heldError_eq_none_iff {position : Nat} {held : Bytes} :
    heldError position held = none ↔ held = [] := by
  cases held with
  | nil => simp [heldError]
  | cons a bs =>
    dsimp only [heldError]
    cases utf8Step a bs <;> simp

/-- Bytes are text if nothing of them is held back in the end. -/
theorem decode_eq_ok_iff {bytes : Bytes} {cs : List Char} :
    decode bytes = .ok cs ↔ decoded? bytes = some (cs, []) := by
  unfold decode decoded?
  cases decodeFrom 0 bytes with
  | error e => simp [Except.toOption]
  | ok r =>
    obtain ⟨ds, held⟩ := r
    dsimp only
    split
    · next hnone =>
      rw [heldError_eq_none_iff] at hnone
      simp [Except.toOption, hnone]
    · next e hsome =>
      have hheld : held ≠ [] := by
        rintro rfl
        cases hsome
      simp [Except.toOption, hheld]

end ThreeBlock.Text
