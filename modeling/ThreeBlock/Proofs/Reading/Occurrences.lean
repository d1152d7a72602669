-- A text of declarations is read token by token: all its tokens stand in one
-- row, each with the line that it stands on, and the row is read from its start
-- to its first fault. What is accepted has its edges leave their own lines.
import Mathlib.Data.Option.Basic
import ThreeBlock.Proofs.Reading.Verdict
import ThreeBlock.Proofs.Rows
import ThreeBlock.Proofs.Transition
import ThreeBlock.Reading.Declarations
namespace ThreeBlock

/-! ## Lines -/

/-- What a token is read to where it stands. -/
def Occurrence.read (states : StateList) (u : Occurrence) : Except Stop Transition :=
  readEdge states u.line u.own u.token

theorem map_inkedPieces (ps : List (List Char)) :
    (Text.inkedPieces ps).map String.ofList =
      (ps.map fun field => String.ofList (Text.trim field)).filter (· ≠ "") := by
  rw [Text.inkedPieces, List.filter_map, List.filter_map, List.map_map]
  congr 1
  apply List.filter_congr
  intro field _
  simp

theorem ofLine_eq (line : List Char) :
    Declaration.ofLine line = ⟨nameOf line, tokensOf line⟩ := by
  rw [Declaration.ofLine, nameOf, tokensOf, fieldsOf]
  cases Text.cut ';' line with
  | nil => rfl
  | cons p ps => exact congrArg (Declaration.mk _) (map_inkedPieces ps)

theorem map_name_readAll (raw : String) :
    (Declaration.readAll raw).map Declaration.name = declaredNames raw := by
  rw [Declaration.readAll, declaredNames, inkedLines, List.map_map]
  exact List.map_congr_left fun line _ => by rw [Function.comp_apply, ofLine_eq]

theorem numberLines_eq (next : Nat) (ls : List (List Char)) :
    Declaration.numberLines next (ls.map Declaration.ofLine) =
      (ls.zipIdx next).map fun l => (l.2, Declaration.ofLine l.1) := by
  induction ls generalizing next with
  | nil => rfl
  | cons l ls ih => rw [List.map_cons, Declaration.numberLines, ih, List.zipIdx_cons, List.map_cons]

/-- All tokens of a text are read in one row. -/
theorem readEdges_readAll (states : StateList) (raw : String) :
    readEdges states (Declaration.readAll raw) =
      (occurrences raw).mapM (Occurrence.read states) := by
  have hlines : (Declaration.numberLines 1 (Declaration.readAll raw)).mapM (readLine states) =
      ((inkedLines raw).zipIdx 1).mapM fun l =>
        ((tokensOf l.1).map fun token => Occurrence.mk l.2 (nameOf l.1) token).mapM
          (Occurrence.read states) := by
    rw [Declaration.readAll, numberLines_eq, List.mapM_map]
    congr 1
    funext l
    rw [Function.comp_apply, ofLine_eq, readLine, List.mapM_map]
    rfl
  rw [readEdges, hlines, mapM_flatten]
  rfl

/-- The line of a token declares the name that stands with it. -/
theorem at?_of_mem_occurrences {raw : String} {u : Occurrence} (h : u ∈ occurrences raw) :
    StateList.at? ⟨declaredNames raw⟩ u.line = some u.own := by
  obtain ⟨⟨line, i⟩, hline, hu⟩ := List.mem_flatMap.1 h
  obtain ⟨token, _, rfl⟩ := List.mem_map.1 hu
  obtain ⟨hle, hget⟩ := List.mk_mem_zipIdx_iff_le_and_getElem?_sub.1 hline
  rw [StateList.at?_eq_some_iff]
  refine ⟨i - 1, show (i : Int) = (i - 1 : Nat) + 1 by omega, ?_⟩
  rw [declaredNames, List.getElem?_map, hget]
  rfl

/-! ## Whole texts -/

theorem readDeclarations_of_isIdentifier {raw : String} (hcount : 2 ≤ (declaredNames raw).length)
    (hnames : ∀ n ∈ declaredNames raw, isIdentifier n = true) :
    readDeclarations raw =
      ((occurrences raw).mapM (Occurrence.read ⟨declaredNames raw⟩)).map
        fun edges => (⟨declaredNames raw⟩, ⟨edges⟩) := by
  have hstates : StateList.ofNames (declaredNames raw) = .ok ⟨declaredNames raw⟩ :=
    StateList.ofNames_eq_ok_iff.2 ⟨hcount, hnames, rfl⟩
  rw [readDeclarations, resolveDeclarations, map_name_readAll, hstates, ← readEdges_readAll]

/-! ## What is accepted -/

theorem mem_of_target? {states : StateList} {r : Reference} (hdeclared : r.missing? states = none)
    {n : String} (h : r.target? states = .ok (some n)) : n ∈ states.names := by
  cases r with
  | position ds =>
    rw [Reference.target?, map_eq_ok_iff] at h
    obtain ⟨v, _, hat⟩ := h
    exact StateList.mem_of_at? hat
  | name m =>
    obtain rfl : m = n := Option.some.inj (Except.ok.inj h)
    by_cases hm : m ∈ states.names
    · exact hm
    · rw [Reference.missing?, if_pos (StateList.positionOf_eq_zero_iff.2 hm)] at hdeclared
      cases hdeclared

/-- An edge that is read leaves the line of its token and enters a declared
state. -/
theorem Occurrence.of_read_eq_ok {states : StateList} {u : Occurrence} {t : Transition}
    (h : u.read states = .ok t) :
    t.source = u.own ∧ t.entry = u.line ∧ t.target ∈ states.names := by
  unfold Occurrence.read readEdge at h
  split at h
  · cases h
  · dsimp only at h
    split at h
    · cases h
    · next hnone =>
      unfold ownEdge at h
      split at h
      · cases h
      · cases h
      · split at h
        · cases h
        · cases h
        · next htarget =>
          cases h
          exact ⟨rfl, rfl, mem_of_target? ((Option.orElse_eq_none _ _).1 hnone).2 htarget⟩

theorem declaredNames_of_readDeclarations {raw : String} {r : StateList × TransitionSet}
    (h : readDeclarations raw = .ok r) :
    2 ≤ (declaredNames raw).length ∧ ∀ n ∈ declaredNames raw, isIdentifier n = true := by
  rw [readDeclarations, resolveDeclarations, map_name_readAll] at h
  cases hstates : StateList.ofNames (declaredNames raw) with
  | error f =>
    rw [hstates] at h
    cases h
  | ok states =>
    obtain ⟨hcount, hnamed, _⟩ := StateList.ofNames_eq_ok_iff.1 hstates
    exact ⟨hcount, hnamed⟩

/-- What is accepted joins the states that it declares. -/
theorem isJoined_of_readDeclarations {raw : String} {states : StateList} {ts : TransitionSet}
    (h : readDeclarations raw = .ok (states, ts)) : IsJoined states ts := by
  obtain ⟨hcount, hnamed⟩ := declaredNames_of_readDeclarations h
  rw [readDeclarations_of_isIdentifier hcount hnamed] at h
  obtain ⟨edges, hedges, hset⟩ := map_eq_ok_iff.1 h
  obtain ⟨rfl, rfl⟩ := Prod.mk.inj hset
  refine ⟨hcount, hnamed, ?_, ?_⟩
  · intro t ht
    obtain ⟨u, hu, hread⟩ := exists_of_mapM_eq_ok hedges t ht
    obtain ⟨hsource, hentry, _⟩ := Occurrence.of_read_eq_ok hread
    rw [hsource, hentry]
    exact at?_of_mem_occurrences hu
  · intro t ht
    obtain ⟨u, _, hread⟩ := exists_of_mapM_eq_ok hedges t ht
    exact (Occurrence.of_read_eq_ok hread).2.2

end ThreeBlock
