-- How the entries of a list share the edges of a set. An edge belongs to the entry that it
-- records or else, given by names alone, to the first entry with its source name; where there
-- is no such entry it belongs to none. The edges of an entry are picked from the set in order,
-- and no edge is picked twice. So entries with one name share the edges that leave the name.
import Mathlib.Data.List.Nodup
import ThreeBlock.Proofs.Transition
namespace ThreeBlock

/-! ## Dealing -/

/-- A list is dealt out to rows: its items go one by one to the end of some row, so each
item is in one row and each row keeps their order. -/
inductive IsDealt {α : Type} : List α → List (List α) → Prop
  | nothing {rows : List (List α)} : (∀ row ∈ rows, row = []) → IsDealt [] rows
  | item {x : α} {xs row : List α} {before after : List (List α)} :
      IsDealt xs (before ++ row :: after) → IsDealt (x :: xs) (before ++ (x :: row) :: after)

/-- Items are dealt out by their keys when each key has a row of its own. -/
theorem isDealt_filter {α κ : Type} [DecidableEq κ] (key : α → κ) {ks : List κ} (hks : ks.Nodup)
    {xs : List α} (h : ∀ x ∈ xs, key x ∈ ks) :
    IsDealt xs (ks.map fun k => xs.filter fun x => key x = k) := by
  induction xs with
  | nil => exact .nothing (by simp)
  | cons x xs ih =>
    rw [List.forall_mem_cons] at h
    have hrest := ih h.2
    obtain ⟨before, after, rfl⟩ := List.append_of_mem h.1
    obtain ⟨_, hafter, hbefore⟩ := List.nodup_append.1 hks
    -- The rows of other keys stay as they are.
    have hother : ∀ ls : List κ, (∀ k ∈ ls, key x ≠ k) →
        (ls.map fun k => (x :: xs).filter fun y => key y = k) =
          ls.map fun k => xs.filter fun y => key y = k := by
      intro ls hls
      exact List.map_congr_left fun k hk => List.filter_cons_of_neg (by simpa using hls k hk)
    have hthis : ((x :: xs).filter fun y => key y = key x) =
        x :: xs.filter fun y => key y = key x := List.filter_cons_of_pos (by simp)
    rw [List.map_append, List.map_cons] at hrest ⊢
    rw [hother before fun k hk => (hbefore k hk _ List.mem_cons_self).symm, hthis,
      hother after fun k hk heq => (List.nodup_cons.1 hafter).1 (heq ▸ hk)]
    exact .item hrest

/-! ## Belonging -/

/-- A position is that of the first entry with a name. -/
structure StateList.IsFirst (states : StateList) (name : String) (p : Nat) : Prop where
  named : states.at? p = some name
  first : ∀ q : Nat, states.at? q = some name → p ≤ q

/-- The entry that an edge belongs to. -/
inductive BelongsTo (states : StateList) (t : Transition) (p : Nat) : Prop
  | recorded : t.entry = p → 1 ≤ p → p ≤ states.size → BelongsTo states t p
  | named : t.entry = 0 → states.IsFirst t.source p → BelongsTo states t p

/-- An edge that records an entry of the list, or none and has a declared source. -/
def HasEntry (states : StateList) (t : Transition) : Prop :=
  (1 ≤ t.entry ∧ t.entry ≤ states.size) ∨ (t.entry = 0 ∧ t.source ∈ states.names)

/-- A position of the list. -/
def StateList.Has (states : StateList) (p : Nat) : Prop := 1 ≤ p ∧ p ≤ states.size

/-- The positions of the entries with a name. -/
def StateList.positionsOf (states : StateList) (name : String) : List Nat :=
  (List.range' 1 states.size).filter fun p => states.at? p = some name

section Belonging

variable {states : StateList} {t : Transition} {name : String} {p : Nat}

theorem StateList.has_of_at? (h : states.at? p = some name) : states.Has p := by
  obtain ⟨i, hi, hname⟩ := StateList.at?_eq_some_iff.1 h
  obtain ⟨hlt, _⟩ := List.getElem?_eq_some_iff.1 hname
  unfold StateList.Has StateList.size
  omega

theorem StateList.mem_positionsOf : p ∈ states.positionsOf name ↔ states.at? p = some name := by
  unfold StateList.positionsOf
  rw [List.mem_filter, List.mem_range'_1, decide_eq_true_eq, and_iff_right_iff_imp]
  intro h
  obtain ⟨hpos, hle⟩ := StateList.has_of_at? h
  omega

theorem StateList.isFirst_iff : states.IsFirst name p ↔ 1 ≤ p ∧ states.positionOf name = p := by
  constructor
  · intro h
    have hat := StateList.at?_positionOf (StateList.mem_of_at? h.named)
    have hle := StateList.positionOf_le_of_at? h.named
    exact ⟨(StateList.has_of_at? h.named).1, Nat.le_antisymm hle (h.first _ hat)⟩
  · rintro ⟨hpos, rfl⟩
    have hmem : name ∈ states.names := by
      by_contra hnot
      rw [StateList.positionOf_eq_zero_iff.2 hnot] at hpos
      omega
    exact ⟨StateList.at?_positionOf hmem, fun q hq => StateList.positionOf_le_of_at? hq⟩

/-- An edge leaves the entry that it belongs to. -/
theorem belongsTo_iff (hp : states.Has p) : BelongsTo states t p ↔ t.leaves states = p := by
  obtain ⟨hpos, hle⟩ := hp
  unfold Transition.leaves
  constructor
  · rintro (⟨hentry, _, _⟩ | ⟨hentry, hfirst⟩)
    · rw [if_neg (by omega), hentry]
    · rw [if_pos hentry, (StateList.isFirst_iff.1 hfirst).2]
  · intro h
    split at h
    · next hentry => exact .named hentry (StateList.isFirst_iff.2 ⟨hpos, Int.ofNat_inj.1 h⟩)
    · exact .recorded h hpos hle

theorem hasEntry_iff : HasEntry states t ↔ ∃ p, states.Has p ∧ t.leaves states = p := by
  unfold Transition.leaves
  constructor
  · rintro (⟨hpos, hle⟩ | ⟨hentry, hsource⟩)
    · refine ⟨t.entry.toNat, ⟨by omega, by omega⟩, ?_⟩
      rw [if_neg (by omega)]
      omega
    · refine ⟨states.positionOf t.source,
        ⟨StateList.positionOf_pos hsource, StateList.positionOf_le hsource⟩, ?_⟩
      rw [if_pos hentry]
  · rintro ⟨p, ⟨hpos, hle⟩, h⟩
    split at h
    · next hentry =>
      have hfirst : states.IsFirst t.source p :=
        StateList.isFirst_iff.2 ⟨hpos, Int.ofNat_inj.1 h⟩
      exact .inr ⟨hentry, StateList.mem_of_at? hfirst.named⟩
    · exact .inl ⟨by omega, by omega⟩

end Belonging

/-! ## Shares -/

/-- The edges picked for each entry, with their places in the set, so that equal edges are
told apart. -/
structure IsSharing (states : StateList) (ts : TransitionSet)
    (share : Nat → List (Transition × Nat)) : Prop where
  ordered : ∀ p, states.Has p → (share p).Sublist ts.edges.zipIdx
  edges : ∀ p, states.Has p → (share p).map Prod.fst = ts.fromPosition states p
  belongs : ∀ p, states.Has p → ∀ e ∈ ts.edges.zipIdx, e ∈ share p ↔ BelongsTo states e.1 p
  once : ∀ e ∈ ts.edges.zipIdx, (∃! p, states.Has p ∧ e ∈ share p) ↔ HasEntry states e.1
  never : ∀ e ∈ ts.edges.zipIdx, (∀ p, states.Has p → e ∉ share p) ↔ ¬ HasEntry states e.1

/-- The edges that leave an entry, with their places in the set. -/
def TransitionSet.shareOf (ts : TransitionSet) (states : StateList) (p : Nat) :
    List (Transition × Nat) :=
  ts.edges.zipIdx.filter fun e => e.1.leaves states = p

section Shares

variable {states : StateList} {ts : TransitionSet} {e : Transition × Nat} {p : Nat}

theorem mem_shareOf (he : e ∈ ts.edges.zipIdx) :
    e ∈ ts.shareOf states p ↔ e.1.leaves states = p := by
  simp [TransitionSet.shareOf, he]

theorem map_fst_shareOf : (ts.shareOf states p).map Prod.fst = ts.fromPosition states p := by
  have hmap := List.filter_map (f := Prod.fst) (p := fun t : Transition => t.leaves states = p)
    (l := ts.edges.zipIdx)
  rw [List.zipIdx_map_fst] at hmap
  exact hmap.symm

theorem isSharing_shareOf (states : StateList) (ts : TransitionSet) :
    IsSharing states ts (ts.shareOf states) where
  ordered p _ := List.filter_sublist
  edges p _ := map_fst_shareOf
  belongs p hp e he := by rw [mem_shareOf he, belongsTo_iff hp]
  once e he := by
    rw [hasEntry_iff]
    constructor
    · rintro ⟨p, ⟨hp, hmem⟩, _⟩
      exact ⟨p, hp, (mem_shareOf he).1 hmem⟩
    · rintro ⟨p, hp, hleaves⟩
      refine ⟨p, ⟨hp, (mem_shareOf he).2 hleaves⟩, ?_⟩
      rintro q ⟨_, hmem⟩
      have hother := (mem_shareOf he).1 hmem
      omega
  never e he := by
    rw [hasEntry_iff, not_exists]
    simp only [mem_shareOf he, not_and]

end Shares

/-! ## Entries with one name -/

/-- An edge that records nothing, or an entry with its source as name. -/
def RecordsItsSource (states : StateList) (t : Transition) : Prop :=
  0 ≤ t.entry ∧ (0 < t.entry → states.at? t.entry = some t.source)

section Names

variable {states : StateList} {ts : TransitionSet} {t : Transition} {name : String}

theorem at?_leaves (ht : RecordsItsSource states t) (hsource : t.source ∈ states.names) :
    states.at? (t.leaves states) = some t.source := by
  obtain ⟨hnonneg, hrecorded⟩ := ht
  unfold Transition.leaves
  split
  · exact StateList.at?_positionOf hsource
  · exact hrecorded (by omega)

/-- The entry that an edge belongs to has its source as name. -/
theorem source_of_belongsTo {p : Nat} (ht : RecordsItsSource states t)
    (hp : states.at? p = some name) (h : BelongsTo states t p) : t.source = name := by
  cases h with
  | recorded hentry hpos _ =>
    have hsource := ht.2 (by omega)
    rw [hentry, hp] at hsource
    exact (Option.some.inj hsource).symm
  | named _ hfirst => exact Option.some.inj (hfirst.named.symm.trans hp)

/-- The edges of an entry are picked from those that leave its name. -/
theorem filter_fromSource {p : Nat} (h : ∀ t ∈ ts.edges, RecordsItsSource states t)
    (hp : states.at? p = some name) :
    ((ts.fromSource name).filter fun t => t.leaves states = (p : Int)) =
      ts.fromPosition states p := by
  rw [TransitionSet.fromSource, List.filter_filter]
  apply List.filter_congr
  intro t ht
  have hsource : t.leaves states = p → t.source = name := fun hleaves =>
    source_of_belongsTo (h t ht) hp ((belongsTo_iff (StateList.has_of_at? hp)).2 hleaves)
  by_cases hleaves : t.leaves states = p
  · simp [hleaves, hsource hleaves]
  · simp [hleaves]

theorem leaves_mem_positionsOf (ht : RecordsItsSource states t) (hname : t.source ∈ states.names) :
    t.leaves states ∈ (states.positionsOf t.source).map Int.ofNat := by
  have hat := at?_leaves ht hname
  obtain ⟨i, hi, _⟩ := StateList.at?_eq_some_iff.1 hat
  rw [hi] at hat ⊢
  exact List.mem_map.2 ⟨i + 1, StateList.mem_positionsOf.2 hat, rfl⟩

/-- The edges that leave a name are dealt out to the entries with the name. -/
theorem isDealt_fromSource (h : ∀ t ∈ ts.edges, RecordsItsSource states t)
    (hname : name ∈ states.names) :
    IsDealt (ts.fromSource name)
      ((states.positionsOf name).map fun p : Nat => ts.fromPosition states p) := by
  have hpositions : ((states.positionsOf name).map Int.ofNat).Nodup :=
    ((List.nodup_range' 1).filter _).map fun _ _ => Int.ofNat_inj.1
  have hkeys : ∀ t ∈ ts.fromSource name,
      t.leaves states ∈ (states.positionsOf name).map Int.ofNat := by
    intro t ht
    obtain ⟨hmem, hsource⟩ := List.mem_filter.1 ht
    obtain rfl : t.source = name := of_decide_eq_true hsource
    exact leaves_mem_positionsOf (h t hmem) hname
  have hdealt := isDealt_filter (Transition.leaves states) hpositions hkeys
  have hrows : ((states.positionsOf name).map Int.ofNat).map
      (fun p => (ts.fromSource name).filter fun t => t.leaves states = p) =
        (states.positionsOf name).map fun p : Nat => ts.fromPosition states p := by
    rw [List.map_map]
    exact List.map_congr_left fun _ hp => filter_fromSource h (StateList.mem_positionsOf.1 hp)
  rwa [hrows] at hdealt

end Names

/-- The edges of the entries are picked from the set in order. An edge is picked for the entry
that it belongs to and for no other; one that records no entry of the list, or has no declared
source, is picked for none. When entries are recorded with their names, the edges that leave a
name are dealt out to the entries with the name. -/
theorem entries_share_the_edges (states : StateList) (ts : TransitionSet) :
    (∃ share, IsSharing states ts share) ∧
      ((∀ t ∈ ts.edges, RecordsItsSource states t) → ∀ name ∈ states.names,
        IsDealt (ts.fromSource name)
          ((states.positionsOf name).map fun p : Nat => ts.fromPosition states p)) :=
  ⟨⟨_, isSharing_shareOf states ts⟩, fun h _ hname => isDealt_fromSource h hname⟩

/-- Two entries with one name: of the edges that leave the name, one records the second entry,
and the one given by names alone goes to the first. -/
theorem two_entries_share_the_edges_of_a_name :
    (∀ t ∈ [⟨"A", "B", 3⟩, ⟨"A", "A", 0⟩, ⟨"C", "A", 0⟩, ⟨"A", "B", 1⟩],
      RecordsItsSource ⟨["A", "B", "A"]⟩ t) ∧
    IsDealt [⟨"A", "B", 3⟩, ⟨"A", "A", 0⟩, ⟨"A", "B", 1⟩]
      [[⟨"A", "A", 0⟩, ⟨"A", "B", 1⟩], [(⟨"A", "B", 3⟩ : Transition)]] := by
  have hrecords : ∀ t ∈ [⟨"A", "B", 3⟩, ⟨"A", "A", 0⟩, ⟨"C", "A", 0⟩, ⟨"A", "B", 1⟩],
      RecordsItsSource ⟨["A", "B", "A"]⟩ t := by
    simp only [RecordsItsSource]
    decide
  exact ⟨hrecords, (entries_share_the_edges ⟨["A", "B", "A"]⟩
    ⟨[⟨"A", "B", 3⟩, ⟨"A", "A", 0⟩, ⟨"C", "A", 0⟩, ⟨"A", "B", 1⟩]⟩).2 hrecords "A" (by decide)⟩

end ThreeBlock
