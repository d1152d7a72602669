-- Simple text: line feeds, and the characters that ASCII shows. UTF-8 spells each of them in
-- one byte, so a simple text has as many bytes as characters.
import ThreeBlock.Proofs.Identifier
import ThreeBlock.Proofs.Text.Numerals
import ThreeBlock.Text.Utf8
namespace ThreeBlock.Text

/-! ## Characters -/

/-- Whether a character is a line feed or one that ASCII shows. -/
def isSimple (c : Char) : Bool := c = '\n' || (0x20 ≤ c.toNat && c.toNat ≤ 0x7E)

theorem isSimple_of_toNat {c : Char} (h : 0x20 ≤ c.toNat ∧ c.toNat ≤ 0x7E) :
    isSimple c = true := by
  simp [isSimple, h]

theorem toNat_lt_of_isSimple {c : Char} (h : isSimple c = true) : c.toNat < 0x80 := by
  simp only [isSimple, Bool.or_eq_true, Bool.and_eq_true, decide_eq_true_eq] at h
  rcases h with rfl | h
  · decide
  · omega

theorem isSimple_of_isIdentifierPart {c : Char} (h : isIdentifierPart c = true) :
    isSimple c = true := by
  have hc := toNat_of_isIdentifierPart h
  exact isSimple_of_toNat (by omega)

theorem isSimple_of_isDigit {c : Char} (h : isDigit c = true) : isSimple c = true :=
  isSimple_of_isIdentifierPart ((isIdentifierPart_iff c).2 (.inr h))

/-! ## Texts -/

/-- Characters that are simple, one and all. -/
def AreSimple (cs : List Char) : Prop := ∀ c ∈ cs, isSimple c = true

-- The characters of the text are looked at, and not all characters that there are.
instance (cs : List Char) : Decidable (AreSimple cs) := List.decidableBAll _ cs

/-- A text of simple characters. -/
def IsSimple (text : String) : Prop := AreSimple text.toList

instance (text : String) : Decidable (IsSimple text) :=
  inferInstanceAs (Decidable (AreSimple text.toList))

section Lists

variable {cs ds : List Char}

theorem AreSimple.nil : AreSimple [] := List.forall_mem_nil _

@[simp] theorem areSimple_cons {c : Char} :
    AreSimple (c :: cs) ↔ isSimple c = true ∧ AreSimple cs := List.forall_mem_cons

@[simp] theorem areSimple_append : AreSimple (cs ++ ds) ↔ AreSimple cs ∧ AreSimple ds :=
  List.forall_mem_append

theorem AreSimple.subset (h : AreSimple ds) (hsub : cs ⊆ ds) : AreSimple cs :=
  fun c hc => h c (hsub hc)

theorem areSimple_ite {p : Prop} [Decidable p] (h : p → AreSimple cs) (h' : ¬ p → AreSimple ds) :
    AreSimple (if p then cs else ds) := by
  by_cases hp : p
  · rw [if_pos hp]
    exact h hp
  · rw [if_neg hp]
    exact h' hp

theorem areSimple_flatMap {α : Type} {f : α → List Char} {xs : List α}
    (h : ∀ x ∈ xs, AreSimple (f x)) : AreSimple (xs.flatMap f) := by
  intro c hc
  obtain ⟨x, hx, hc⟩ := List.mem_flatMap.1 hc
  exact h x hx c hc

theorem areSimple_replicate (n : Nat) {c : Char} (h : isSimple c = true) :
    AreSimple (List.replicate n c) := by
  intro d hd
  rw [List.eq_of_mem_replicate hd]
  exact h

end Lists

section Texts

variable {s t : String}

@[simp] theorem isSimple_append : IsSimple (s ++ t) ↔ IsSimple s ∧ IsSimple t := by
  unfold IsSimple
  rw [String.toList_append, areSimple_append]

@[simp] theorem isSimple_ofList {cs : List Char} : IsSimple (String.ofList cs) ↔ AreSimple cs := by
  rw [IsSimple, String.toList_ofList]

theorem isSimple_intercalate {sep : String} (hsep : IsSimple sep) {ss : List String}
    (h : ∀ s ∈ ss, IsSimple s) : IsSimple (String.intercalate sep ss) := by
  induction ss with
  | nil => simp [IsSimple, AreSimple.nil]
  | cons s ss ih =>
    rw [List.forall_mem_cons] at h
    cases ss with
    | nil => simpa using h.1
    | cons r rs =>
      rw [String.intercalate_cons_cons, isSimple_append, isSimple_append]
      exact ⟨⟨h.1, hsep⟩, ih h.2⟩

end Texts

/-! ## Numerals and words -/

theorem areSimple_numeral (n : Nat) : AreSimple (numeral n) :=
  fun _ hc => isSimple_of_isDigit (isDigit_of_mem_numeral hc)

theorem isSimple_natText (n : Nat) : IsSimple (natText n) :=
  isSimple_ofList.2 (areSimple_numeral n)

theorem isSimple_intText (n : Int) : IsSimple (intText n) := by
  cases n with
  | ofNat n => exact isSimple_natText n
  | negSucc n => exact isSimple_append.2 ⟨by decide, isSimple_natText _⟩

theorem areSimple_hexDigits (width n : Nat) : AreSimple (hexDigits width n) := by
  have hdigits : ∀ k < 16, isSimple (Nat.digitChar k) = true := by decide +kernel
  induction width generalizing n with
  | zero => exact .nil
  | succ width ih =>
    rw [hexDigits, areSimple_append, areSimple_cons]
    exact ⟨ih _, hdigits _ (Nat.mod_lt _ (by omega)), .nil⟩

/-! ## Bytes -/

/-- Each character of a simple text is one byte. -/
theorem length_utf8Bytes {text : String} (h : IsSimple text) :
    (utf8Bytes text).length = text.length := by
  have hone : ∀ c ∈ text.toList, (String.utf8EncodeChar c).length = 1 := by
    intro c hc
    have hlt : c.val.toNat < 0x80 := toNat_lt_of_isSimple (h c hc)
    have hseven : (127 : UInt32).toNat = 127 := rfl
    rw [String.length_utf8EncodeChar, Char.utf8Size_eq_one_iff, UInt32.le_iff_toNat_le]
    omega
  rw [utf8Bytes, List.length_flatMap, List.map_congr_left hone, ← String.length_toList]
  simp

/-! ## Pages -/

/-- A text of simple characters that ends with a line feed. -/
structure IsPage (text : String) : Prop where
  simple : IsSimple text
  ended : text.toList.getLast? = some '\n'

theorem isPage_append_line {text : String} (h : IsSimple text) : IsPage (text ++ "\n") where
  simple := isSimple_append.2 ⟨h, by decide⟩
  ended := by simp

end ThreeBlock.Text

namespace ThreeBlock

theorem IsWord.isSimple {word : String} (h : IsWord word) : Text.IsSimple word :=
  fun c hc => Text.isSimple_of_isIdentifierPart (h.part c hc)

end ThreeBlock
