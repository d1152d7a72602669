-- How deep the program may go before it gives up. Each step inward takes some
-- of the room for calls in progress, so the limits depend on where a run
-- starts.
namespace ThreeBlock

/-- How many steps inward are taken at most: directories made one inside the
other, collections of a document read inside each other, maps merged into each
other, and values spelled inside each other. -/
structure Limits where
  directories : Nat := 1000
  reading : Nat := 1000
  merging : Nat := 1000
  spelling : Nat := 1000
  deriving DecidableEq, Repr, Inhabited

end ThreeBlock
