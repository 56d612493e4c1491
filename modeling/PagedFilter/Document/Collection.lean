import PagedFilter.Document.Match
import PagedFilter.StableSort

/-!
Collections of documents in the order of their insertion. A collection may be set to fail; then every
query does, whatever it asks for.
-/

namespace PagedFilter.Document

structure Collection where
  docs : List Row
  failure : Option String
  deriving Repr

namespace Collection

def ofList (docs : List Row) : Collection := ⟨docs, none⟩

def insert (c : Collection) (doc : Row) : Collection := { c with docs := c.docs ++ [doc] }

def failWith (c : Collection) (reason : String) : Collection := { c with failure := some reason }

def clearFailure (c : Collection) : Collection := { c with failure := none }

/-- The documents that satisfy a filter, in the order of insertion. -/
def select (c : Collection) (filter : Value) : Except StoreError (List Row) :=
  match c.failure with
  | some reason => .error (.backend reason)
  | none => filterUntilError (accepts · filter) c.docs

def count (c : Collection) (filter : Value) : Except StoreError Nat :=
  (c.select filter).map List.length

/-- The documents that satisfy a filter, sorted by the keys, and of these a window. -/
def find (c : Collection) (filter : Value) (keys : List SortKey) (skip : Nat)
    (limit : Option Nat) : Except StoreError (List Row) :=
  (c.select filter).map fun docs =>
    window skip limit (StableSort.sort (compareRows Value.lookup keys) docs)

theorem find_no_keys (c : Collection) (filter : Value) :
    c.find filter [] 0 none = c.select filter := by
  have h : compareRows Value.lookup [] = fun _ _ => .eq := by
    funext a b
    rfl
  unfold find
  rw [h]
  cases c.select filter <;> simp [Except.map, window, StableSort.sort_of_eq]

end Collection

end PagedFilter.Document
