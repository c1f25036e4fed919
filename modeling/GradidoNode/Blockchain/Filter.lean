import GradidoNode.Library.FixedWidth
import Mathlib.Data.Prod.Lex

/-!
# Filters

What a search for transactions is restricted to. The filter function is not part of the
filter here, since it may have effects of its own.
-/

namespace GradidoNode

namespace Blockchain

/-- The flags of a filter result. -/
structure FilterResult where
  use : Bool
  stop : Bool
  deriving DecidableEq, Repr

namespace FilterResult

def DISMISS : FilterResult := ⟨false, false⟩

def USE : FilterResult := ⟨true, false⟩

end FilterResult

inductive SearchDirection
  | ASC
  | DESC
  deriving DecidableEq, Repr

/-- `iterateRangeInOrder` visits a range in the search direction. -/
def SearchDirection.inOrder {Item : Type*} : SearchDirection → List Item → List Item
  | ASC, range => range
  | DESC, range => range.reverse

/-- Pages are counted from 1; a size of 0 means all. -/
structure Pagination where
  size : Nat
  page : Nat
  deriving DecidableEq, Repr

namespace Pagination

def skipEntriesCount (pagination : Pagination) : Nat :=
  if pagination.page > 1 then (pagination.page - 1) * pagination.size else 0

def hasCapacityLeft (pagination : Pagination) (count : Nat) : Bool :=
  pagination.size = 0 || count < pagination.size

theorem hasCapacityLeft_iff {pagination : Pagination} {count : Nat} :
    pagination.hasCapacityLeft count = true ↔ pagination.size = 0 ∨ count < pagination.size := by
  simp [hasCapacityLeft]

end Pagination

/-- `date::year_month`. -/
abbrev YearMonth := Int16 ×ₗ UInt8

/-- A range of months. -/
structure TimepointInterval where
  startDate : YearMonth
  endDate : YearMonth
  deriving DecidableEq

/-- A `Filter` without its filter function. 0 stands for no limit of the transaction numbers,
for no transaction type, and the empty id for no coin community. -/
structure Filter where
  minTransactionNr : UInt64
  maxTransactionNr : UInt64
  involvedPublicKey : Option (List UInt8)
  searchDirection : SearchDirection
  pagination : Pagination
  coinCommunityId : String
  timepointInterval : Option TimepointInterval
  transactionType : UInt8
  deriving DecidableEq

/-- `Filter::ALL_TRANSACTIONS` with a search direction. -/
def Filter.ALL_TRANSACTIONS (searchDirection : SearchDirection) : Filter where
  minTransactionNr := 0
  maxTransactionNr := 0
  involvedPublicKey := none
  searchDirection := searchDirection
  pagination := ⟨0, 0⟩
  coinCommunityId := ""
  timepointInterval := none
  transactionType := 0

section Order

variable {Item Target : Type*}

theorem inOrder_flatMap (direction : SearchDirection) (function : Item → List Target)
    (range : List Item) :
    (direction.inOrder range).flatMap (fun item => direction.inOrder (function item)) =
      direction.inOrder (range.flatMap function) := by
  cases direction with
  | ASC => rfl
  | DESC => exact List.reverse_flatMap.symm

theorem inOrder_filter (direction : SearchDirection) (wanted : Item → Bool) (range : List Item) :
    (direction.inOrder range).filter wanted = direction.inOrder (range.filter wanted) := by
  cases direction with
  | ASC => rfl
  | DESC => exact List.filter_reverse ..

theorem inOrder_map (direction : SearchDirection) (function : Item → Target) (range : List Item) :
    (direction.inOrder range).map function = direction.inOrder (range.map function) := by
  cases direction with
  | ASC => rfl
  | DESC => exact List.map_reverse ..

theorem mem_inOrder {direction : SearchDirection} {range : List Item} {item : Item} :
    item ∈ direction.inOrder range ↔ item ∈ range := by
  cases direction with
  | ASC => exact Iff.rfl
  | DESC => exact List.mem_reverse

end Order

end Blockchain

end GradidoNode
