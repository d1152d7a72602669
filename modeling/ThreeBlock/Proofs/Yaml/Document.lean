-- A document is composed from tokens that stop at some trouble: whatever is wrong with
-- it is found by the reader itself, or is that trouble.
import ThreeBlock.Proofs.Yaml.Layout
import ThreeBlock.Yaml.Document
namespace ThreeBlock.Yaml

open Composing

/-- The trouble behind the tokens, if there is any, fits the wall. -/
def Feed.Fits (wall : Option Error) (f : Feed) : Prop := ∀ e, f.trouble = some e → e.Fits wall

/-- A reading of tokens that keeps their trouble. -/
abbrev Composes {α : Type} (wall : Option Error) (m : Composing α) : Prop :=
  Runs wall (Feed.Fits wall) m

variable {wall : Option Error}

/-! ## Tokens and names -/

theorem composes_peek : Composes wall peek := by
  constructor
  rintro ⟨tokens, trouble, handles, anchors, count, nodes, depth⟩ hf
  cases tokens with
  | cons t ts => exact .ok hf
  | nil =>
    cases trouble with
    | some e => exact .error (hf e rfl)
    | none => exact .ok hf

theorem composes_skip : Composes wall skip := .modify fun _ hf => hf

theorem composes_isAt (ts : List Token) : Composes wall (isAt ts) :=
  composes_peek.bind fun _ => .pure _

theorem composes_expect (t : Token) (what : String) : Composes wall (expect t what) := by
  unfold expect
  refine composes_peek.bind fun _ => ?_
  apply Runs.ite
  · exact composes_skip
  · exact .throw rfl

theorem composes_newNumber : Composes wall newNumber := ⟨fun _ hf => .ok hf⟩

theorem composes_finish (id : Nat) (n : Node) : Composes wall (Composing.finish id n) :=
  .modify fun _ hf => hf

theorem composes_leaveEmpty : Composes wall leaveEmpty := by
  unfold leaveEmpty
  refine composes_newNumber.bind fun id => ?_
  exact (composes_finish id _).bind fun _ => .pure _

theorem composes_checkAnchor (anchor : Option String) : Composes wall (checkAnchor anchor) := by
  unfold checkAnchor
  split
  · exact .pure _
  · refine Runs.get.bind fun f => ?_
    apply Runs.ite
    · exact .throw rfl
    · exact .pure _

theorem composes_name (anchor : Option String) (id : Nat) : Composes wall (name anchor id) := by
  unfold name
  split
  · exact .pure _
  · exact .modify fun _ hf => hf

theorem composes_resolve (anchor : String) : Composes wall (resolve anchor) := by
  unfold resolve
  refine Runs.get.bind fun f => ?_
  split
  · exact .pure _
  · exact .throw rfl

theorem composes_nested {α : Type} {inner : Composing α} (h : Composes wall inner) :
    Composes wall (nested inner) := by
  unfold nested
  refine Runs.get.bind fun f => ?_
  refine Runs.get.bind fun f' => ?_
  have hrest : Composes wall (do
      modify fun f => { f with depth := f.depth + 1 }
      let a ← inner
      modify fun f => { f with depth := f.depth - 1 }
      return a) := by
    refine Runs.bind (.modify fun _ hf => hf) fun _ => ?_
    refine h.bind fun _ => ?_
    exact Runs.bind (.modify fun _ hf => hf) fun _ => .pure _
  apply Runs.ite
  · exact (Runs.throw rfl).bind fun _ => hrest
  · exact hrest

theorem composes_tagName (handle : Option String) (suffix : String) :
    Composes wall (tagName handle suffix) := by
  unfold tagName
  split
  · exact .pure _
  · refine Runs.get.bind fun f => ?_
    split
    · exact .pure _
    · exact .throw rfl

theorem composes_properties : Composes wall Properties.read := by
  unfold Properties.read
  refine composes_peek.bind fun t => ?_
  split
  · refine composes_skip.bind fun _ => ?_
    refine composes_peek.bind fun t => ?_
    split
    · refine composes_skip.bind fun _ => ?_
      exact (composes_tagName ..).bind fun _ => .pure _
    · exact .pure _
  · refine composes_skip.bind fun _ => ?_
    refine composes_peek.bind fun t => ?_
    split
    · refine composes_skip.bind fun _ => ?_
      exact (composes_tagName ..).bind fun _ => .pure _
    · exact (composes_tagName ..).bind fun _ => .pure _
  · exact .pure _

/-! ## Nodes -/

theorem composes_outOfSteps {α : Type} : Composes (α := α) wall outOfSteps := .throw rfl

theorem composes_readForm (p : Properties) (tag : Tag) {inside : Composing Form}
    (h : Composes wall inside) : Composes wall (readForm p tag inside) := by
  unfold readForm
  refine (composes_checkAnchor _).bind fun _ => ?_
  refine composes_newNumber.bind fun id => ?_
  refine (composes_name _ id).bind fun _ => ?_
  refine (composes_nested h).bind fun form => ?_
  exact (composes_finish id _).bind fun _ => .pure _

theorem composes_readList (p : Properties) {items : Composing (List Nat)}
    (h : Composes wall items) : Composes wall (readList p items) :=
  composes_readForm p _ (.map _ h)

theorem composes_readMap (p : Properties) {entries : Composing (List (Nat × Nat))}
    (h : Composes wall entries) : Composes wall (readMap p entries) :=
  composes_readForm p _ (.map _ h)

/-- All that is read of nodes in a number of steps keeps the trouble. -/
structure NodesCompose (wall : Option Error) (n : Nat) : Prop where
  node : ∀ inBlock inMap, Composes wall (readNode inBlock inMap n)
  nodeOr : ∀ ends inBlock inMap, Composes wall (readOr ends inBlock inMap n)
  value : ∀ ends inBlock, Composes wall (readValue ends inBlock n)
  blockItems : ∀ items, Composes wall (readBlockItems items n)
  looseItems : ∀ items, Composes wall (readLooseItems items n)
  blockEntries : ∀ entries, Composes wall (readBlockEntries entries n)
  flowItems : ∀ first items, Composes wall (readFlowItems first items n)
  entry : Composes wall (readEntry n)
  flowEntries : ∀ first entries, Composes wall (readFlowEntries first entries n)

namespace NodesCompose

variable {n : Nat}

theorem zero : NodesCompose wall 0 := by
  constructor <;> intros <;> exact composes_outOfSteps

theorem node_succ (h : NodesCompose wall n) (inBlock inMap : Bool) :
    Composes wall (readNode inBlock inMap (n + 1)) := by
  unfold readNode
  refine composes_peek.bind fun t => ?_
  split
  · refine composes_skip.bind fun _ => ?_
    exact composes_resolve _
  · refine composes_properties.bind fun p => ?_
    refine composes_peek.bind fun t => ?_
    split
    · refine composes_readForm _ _ ?_
      exact composes_skip.bind fun _ => .pure _
    · exact composes_readList _ (composes_skip.seqRight (h.flowItems ..))
    · exact composes_readMap _ (composes_skip.seqRight (h.flowEntries ..))
    · apply Runs.ite
      · exact composes_readList _ (h.looseItems _)
      apply Runs.ite
      · exact composes_readList _ (composes_skip.seqRight (h.blockItems _))
      apply Runs.ite
      · exact composes_readMap _ (composes_skip.seqRight (h.blockEntries _))
      apply Runs.ite
      · exact .throw rfl
      · exact composes_readForm _ _ (.pure _)

theorem blockItems_succ (h : NodesCompose wall n) (items : List Nat) :
    Composes wall (readBlockItems items (n + 1)) := by
  unfold readBlockItems
  refine (composes_isAt _).bind fun _ => ?_
  apply Runs.ite
  · refine composes_skip.bind fun _ => ?_
    exact (h.nodeOr ..).bind fun _ => h.blockItems _
  · exact (composes_expect ..).bind fun _ => .pure _

theorem looseItems_succ (h : NodesCompose wall n) (items : List Nat) :
    Composes wall (readLooseItems items (n + 1)) := by
  unfold readLooseItems
  refine (composes_isAt _).bind fun _ => ?_
  apply Runs.ite
  · refine composes_skip.bind fun _ => ?_
    exact (h.nodeOr ..).bind fun _ => h.looseItems _
  · exact .pure _

theorem blockEntries_succ (h : NodesCompose wall n) (entries : List (Nat × Nat)) :
    Composes wall (readBlockEntries entries (n + 1)) := by
  unfold readBlockEntries
  refine (composes_isAt _).bind fun _ => ?_
  apply Runs.ite
  · refine composes_skip.bind fun _ => ?_
    refine (h.nodeOr ..).bind fun _ => ?_
    exact (h.value ..).bind fun _ => h.blockEntries _
  · exact (composes_expect ..).bind fun _ => .pure _

/-- A comma, unless what is ahead is the first of its kind. -/
theorem composes_comma (first : Bool) (what : String) {α : Type} {m : Composing α}
    (h : Composes wall m) :
    Composes wall (do
      if !first then expect .flowItem what
      m) := by
  apply Runs.ite
  · exact (composes_expect ..).bind fun _ => h
  · exact h

theorem flowItems_succ (h : NodesCompose wall n) (first : Bool) (items : List Nat) :
    Composes wall (readFlowItems first items (n + 1)) := by
  unfold readFlowItems
  refine (composes_isAt _).bind fun _ => ?_
  apply Runs.ite
  · exact composes_skip.bind fun _ => .pure _
  · apply composes_comma
    refine composes_peek.bind fun t => ?_
    split
    · exact composes_skip.bind fun _ => .pure _
    · refine (composes_readMap _ (composes_skip.seqRight h.entry)).bind fun _ => ?_
      exact h.flowItems ..
    · exact (h.node ..).bind fun _ => h.flowItems ..

theorem flowEntries_succ (h : NodesCompose wall n) (first : Bool) (entries : List (Nat × Nat)) :
    Composes wall (readFlowEntries first entries (n + 1)) := by
  unfold readFlowEntries
  refine (composes_isAt _).bind fun _ => ?_
  apply Runs.ite
  · exact composes_skip.bind fun _ => .pure _
  · apply composes_comma
    refine composes_peek.bind fun t => ?_
    split
    · exact composes_skip.bind fun _ => .pure _
    · refine composes_skip.bind fun _ => ?_
      refine (h.nodeOr ..).bind fun _ => ?_
      exact (h.value ..).bind fun _ => h.flowEntries ..
    · refine (h.node ..).bind fun _ => ?_
      exact composes_leaveEmpty.bind fun _ => h.flowEntries ..

theorem succ (h : NodesCompose wall n) : NodesCompose wall (n + 1) where
  node := h.node_succ
  nodeOr ends inBlock inMap := by
    unfold readOr
    refine (composes_isAt _).bind fun _ => ?_
    apply Runs.ite
    · exact composes_leaveEmpty
    · exact h.node ..
  value ends inBlock := by
    unfold readValue
    refine (composes_isAt _).bind fun _ => ?_
    apply Runs.ite
    · exact composes_skip.bind fun _ => h.nodeOr ..
    · exact composes_leaveEmpty
  blockItems := h.blockItems_succ
  looseItems := h.looseItems_succ
  blockEntries := h.blockEntries_succ
  flowItems := h.flowItems_succ
  entry := by
    unfold readEntry
    refine (h.nodeOr ..).bind fun _ => ?_
    exact (h.value ..).bind fun _ => .pure _
  flowEntries := h.flowEntries_succ

end NodesCompose

theorem nodesCompose (n : Nat) : NodesCompose wall n := by
  induction n with
  | zero => exact .zero
  | succ n ih => exact ih.succ

/-! ## Documents -/

theorem composes_readDirectives (versioned : Bool) (declared : List (String × String)) (n : Nat) :
    Composes wall (readDirectives versioned declared n) := by
  induction n generalizing versioned declared with
  | zero => exact composes_outOfSteps
  | succ n ih =>
    unfold readDirectives
    refine composes_peek.bind fun t => ?_
    split
    · refine composes_skip.bind fun _ => ?_
      split
      · apply Runs.ite
        · exact .throw rfl
        · exact ih ..
      · apply Runs.ite
        · exact .throw rfl
        · exact ih ..
      · exact ih ..
    · exact .pure _

theorem composes_readOpening (n : Nat) : Composes wall (readOpening n) := by
  unfold readOpening
  refine (composes_readDirectives ..).bind fun declared => ?_
  refine Runs.bind (.modify fun _ hf => hf) fun _ => ?_
  exact composes_expect ..

theorem composes_readContent (n : Nat) : Composes wall (readContent n) := by
  unfold readContent
  refine composes_peek.bind fun t => ?_
  split
  any_goals exact composes_leaveEmpty
  exact (nodesCompose n).node ..

theorem composes_readRoot (n : Nat) : Composes wall (readRoot n) := by
  have hopened : Composes wall (do
      readOpening n
      return some (← readContent n)) := by
    refine (composes_readOpening n).bind fun _ => ?_
    exact (composes_readContent n).bind fun _ => .pure _
  unfold readRoot
  refine composes_peek.bind fun t => ?_
  split
  · exact .pure _
  · exact hopened
  · exact hopened
  · refine Runs.bind (.modify fun _ hf => hf) fun _ => ?_
    exact ((nodesCompose n).node ..).bind fun _ => .pure _

theorem composes_skipEnds (n : Nat) : Composes wall (skipEnds n) := by
  induction n with
  | zero => exact composes_outOfSteps
  | succ n ih =>
    unfold skipEnds
    refine (composes_isAt _).bind fun _ => ?_
    apply Runs.ite
    · exact composes_skip.bind fun _ => ih
    · exact .pure _

theorem composes_readOnly (n : Nat) : Composes wall (readOnly n) := by
  unfold readOnly
  refine (composes_readRoot n).bind fun root => ?_
  refine (composes_skipEnds n).bind fun _ => ?_
  refine (composes_isAt _).bind fun _ => ?_
  apply Runs.ite
  · exact .pure _
  · exact (composes_readOpening n).bind fun _ => .throw rfl

theorem keeps_ofTokens (deepest : Nat) {ts : Tokens} (h : ∀ e, ts.trouble = some e → e.Fits wall) :
    Keeps wall (fun _ => True) (Graph.ofTokens deepest ts) := by
  unfold Graph.ofTokens
  exact ((composes_readOnly _).keeps { tokens := ts.ahead, trouble := ts.trouble, deepest } h).bind
    fun _ _ => .ok trivial

end ThreeBlock.Yaml
