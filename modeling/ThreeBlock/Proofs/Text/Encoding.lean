-- Codecs and pieces of texts. Most encodings act on each character alone; then the bytes of
-- pieces, one after the other, are those of the text that they make. A mark is written with
-- the first piece. UTF-7 ends each piece by itself, so its pieces show.
import ThreeBlock.Proofs.Rows
import ThreeBlock.Text.Encoding
namespace ThreeBlock.Text

/-! ## Characters alone -/

theorem singleBytes_eq_ok_iff {encoding : String} {limit position : Nat} {cs : List Char}
    {bytes : Bytes} :
    singleBytes encoding limit position cs = .ok bytes ↔
      (∀ c ∈ cs, c.toNat < limit) ∧ bytes = cs.map fun c => c.toNat.toUInt8 := by
  induction cs generalizing position bytes with
  | nil => simp [singleBytes, eq_comm]
  | cons c cs ih =>
    rw [singleBytes]
    split
    · next hc =>
      constructor
      · intro h
        obtain ⟨rest, hrest, rfl⟩ : ∃ rest, singleBytes encoding limit (position + 1) cs =
            .ok rest ∧ c.toNat.toUInt8 :: rest = bytes := by
          cases hrest : singleBytes encoding limit (position + 1) cs with
          | error e =>
            rw [hrest] at h
            cases h
          | ok rest =>
            rw [hrest] at h
            cases h
            exact ⟨rest, rfl, rfl⟩
        obtain ⟨hall, rfl⟩ := ih.1 hrest
        exact ⟨List.forall_mem_cons.2 ⟨hc, hall⟩, rfl⟩
      · rintro ⟨hall, rfl⟩
        rw [ih.2 ⟨(List.forall_mem_cons.1 hall).2, rfl⟩]
        rfl
    · next hc =>
      constructor
      · intro h
        cases h
      · rintro ⟨hall, _⟩
        exact absurd (List.forall_mem_cons.1 hall).1 hc

/-- An encoder that may take a text in pieces. -/
structure Splits (encode : String → Except String Bytes) : Prop where
  empty : encode "" = .ok []
  append {s t : String} {as bs : Bytes} : encode s = .ok as → encode t = .ok bs →
    encode (s ++ t) = .ok (as ++ bs)

theorem splits_flatMap (f : Char → Bytes) : Splits fun s => .ok (s.toList.flatMap f) where
  empty := by simp
  append := by
    rintro s t _ _ ⟨⟩ ⟨⟩
    simp

theorem splits_singleBytes (encoding : String) (limit : Nat) :
    Splits fun s => (singleBytes encoding limit 0 s.toList).mapError (·.message) where
  empty := by simp [singleBytes, Except.mapError]
  append := by
    intro s t as bs hs ht
    obtain ⟨hsall, rfl⟩ := singleBytes_eq_ok_iff.1 (mapError_eq_ok_iff.1 hs)
    obtain ⟨htall, rfl⟩ := singleBytes_eq_ok_iff.1 (mapError_eq_ok_iff.1 ht)
    refine mapError_eq_ok_iff.2 (singleBytes_eq_ok_iff.2 ⟨?_, ?_⟩)
    · intro c hc
      rw [String.toList_append] at hc
      exact (List.mem_append.1 hc).elim (hsall c) (htall c)
    · rw [String.toList_append, List.map_append]

/-- All encodings known by name but UTF-7 take texts in pieces. -/
theorem Encoding.splits {e : Encoding} (h : e ≠ .utf7) :
    Splits fun s => (e.encode s).mapError (·.message) := by
  cases e with
  | utf7 => exact absurd rfl h
  | utf8 marked => exact splits_flatMap _
  | utf16 order => exact splits_flatMap _
  | utf32 order => exact splits_flatMap _
  | ascii => exact splits_singleBytes "ascii" 128
  | latin1 => exact splits_singleBytes "latin-1" 256

/-! ## Pieces -/

namespace Codec

/-- Texts written one after the other give the bytes of the text that they make. -/
def SeamlessOn (c : Codec) (texts : List String) : Prop :=
  ∀ bytes, c.pieces [] texts = .ok bytes → c.whole (String.join texts) = .ok bytes

theorem pieces_cons_eq_ok_iff {c : Codec} {earlier texts : List String} {t : String}
    {bytes : Bytes} :
    c.pieces earlier (t :: texts) = .ok bytes ↔
      ∃ added more, c.next earlier t = .ok added ∧ c.pieces (earlier ++ [t]) texts = .ok more ∧
        bytes = added ++ more := by
  rw [pieces]
  refine bind_eq_ok_iff.trans ?_
  constructor
  · rintro ⟨added, hadded, h⟩
    obtain ⟨more, hmore, h⟩ := bind_eq_ok_iff.1 h
    cases h
    exact ⟨added, more, hadded, hmore, rfl⟩
  · rintro ⟨added, more, hadded, hmore, rfl⟩
    exact ⟨added, hadded, bind_eq_ok_iff.2 ⟨more, hmore, rfl⟩⟩

section OfEncoder

variable {mark : Bytes} {encode : String → Except String Bytes} (hencode : Splits encode)
include hencode

/-- Behind the first text there is no mark. -/
theorem encode_join_of_pieces {earlier texts : List String} {bytes : Bytes}
    (hearlier : earlier ≠ [] ∨ mark = [])
    (h : (ofEncoder mark encode).pieces earlier texts = .ok bytes) :
    encode (String.join texts) = .ok bytes := by
  induction texts generalizing earlier bytes with
  | nil =>
    cases h
    exact hencode.empty
  | cons t ts ih =>
    obtain ⟨added, more, hadded, hmore, rfl⟩ := pieces_cons_eq_ok_iff.1 h
    obtain ⟨bare, hbare, rfl⟩ := map_eq_ok_iff.1 hadded
    have hunmarked : (if earlier.isEmpty then mark else []) = [] := by
      rcases hearlier with hne | rfl
      · rw [if_neg (by simpa using hne)]
      · exact ite_self _
    rw [hunmarked, List.nil_append, String.join_cons]
    exact hencode.append hbare (ih (.inl (by simp)) hmore)

theorem seamlessOn_ofEncoder {texts : List String} (h : texts ≠ [] ∨ mark = []) :
    (ofEncoder mark encode).SeamlessOn texts := by
  intro bytes hpieces
  cases texts with
  | nil =>
    cases hpieces
    obtain rfl : mark = [] := h.resolve_left fun hne => hne rfl
    exact map_eq_ok_iff.2 ⟨[], hencode.empty, rfl⟩
  | cons t ts =>
    obtain ⟨added, more, hadded, hmore, rfl⟩ := pieces_cons_eq_ok_iff.1 hpieces
    obtain ⟨bare, hbare, rfl⟩ := map_eq_ok_iff.1 hadded
    have hrest := encode_join_of_pieces hencode (.inl (by simp)) hmore
    rw [String.join_cons]
    exact map_eq_ok_iff.2 ⟨bare ++ more, hencode.append hbare hrest, (List.append_assoc ..).symm⟩

end OfEncoder

end Codec

/-- An encoding known by name, other than UTF-7, does not show pieces; one with a mark needs a
text to write it with. -/
theorem Encoding.seamlessOn {e : Encoding} (he : e ≠ .utf7) {texts : List String}
    (h : texts ≠ [] ∨ e.mark = []) : e.codec.SeamlessOn texts :=
  Codec.seamlessOn_ofEncoder (Encoding.splits he) h

end ThreeBlock.Text
