import GradidoNode.Cache.FindTransactions
import GradidoNode.Cache.IncrementalIndex

/-!
# The index of a block in order

An index into which transactions are put in the order of their dates keeps its entries in the
order of their numbers.
-/

namespace GradidoNode

open Library

namespace Cache

namespace BlockIndex

/-- The entries of an index are those of the given numbers, in their order. -/
structure IndexesNumbers (transactionNrs : List UInt64) (index : BlockIndex) : Prop where
  numbers : index.allEntries.map BlockIndexEntry.transactionNr = transactionNrs
  least : index.minTransactionNr = transactionNrs.head?.getD 0
  greatest : index.maxTransactionNr = transactionNrs.getLast?.getD 0
  calendar : index.CalendarMonths

/-- No month of the index lies behind this one. -/
structure Latest (index : BlockIndex) (year : Int16) (month : UInt8) : Prop where
  years : ∀ other ∈ index.yearMonthAddressIndexEntries.toList, other.1 ≤ year
  months : ∀ months, index.yearMonthAddressIndexEntries.find? year = some months →
    ∀ other ∈ months.toList, other.1 ≤ month

variable {index : BlockIndex}

/-- A later month has no month behind it either. -/
theorem Latest.later {year otherYear : Int16} {month otherMonth : UInt8}
    (latest : index.Latest year month)
    (later : toLex (year, month) ≤ toLex (otherYear, otherMonth)) :
    index.Latest otherYear otherMonth := by
  rcases Prod.Lex.toLex_le_toLex.mp later with laterYear | ⟨sameYear, laterMonth⟩
  · refine ⟨fun other member => (latest.years other member).trans (le_of_lt laterYear), ?_⟩
    intro months found
    have member := OrderedMap.mem_of_lookup found
    exact absurd (latest.years _ member) (not_le.mpr laterYear)
  · dsimp only at sameYear laterMonth
    subst sameYear
    exact ⟨latest.years, fun months found other member =>
      (latest.months months found other member).trans laterMonth⟩

/-- The month of the entry is the last one then. -/
theorem Latest.withEntry {indices : TransactionIndices}
    (latest : index.Latest indices.year indices.month) :
    (index.withEntry indices).Latest indices.year indices.month where
  years other member := by
    obtain ⟨before, years, altered⟩ := OrderedMap.exists_before latest.years
    have isMember := (altered _) ▸ member
    rcases List.mem_append.mp isMember with earlier | here
    · exact latest.years other (years ▸ List.mem_append_left _ earlier)
    · rw [List.mem_singleton.mp here]
  months months found other member := by
    have upTo : ∀ other ∈ ((index.yearMonthAddressIndexEntries.find? indices.year).getD ∅).toList,
        other.1 ≤ indices.month := by
      cases isYear : index.yearMonthAddressIndexEntries.find? indices.year with
      | none => exact fun _ isMember => by cases isMember
      | some months => exact latest.months months isYear
    obtain ⟨before, same, altered⟩ := OrderedMap.exists_before upTo
    have isMonths := (OrderedMap.find?_alter_self _ _ _).symm.trans found
    rw [← Option.some.inj isMonths, altered] at member
    rcases List.mem_append.mp member with earlier | here
    · exact upTo other (same ▸ List.mem_append_left _ earlier)
    · rw [List.mem_singleton.mp here]

/-! ## Filling an index in order -/

/-- The arguments come in the order of their dates and numbers, and from calendar months. -/
structure InOrder (delivered : List TransactionIndices) : Prop where
  dates : delivered.Pairwise fun first second =>
    toLex (first.year, first.month) ≤ toLex (second.year, second.month)
  ascending : delivered.Pairwise fun first second => first.transactionNr < second.transactionNr
  positive : ∀ indices ∈ delivered, indices.transactionNr ≠ 0
  calendar : ∀ indices ∈ delivered, 1 ≤ indices.month ∧ indices.month ≤ 12

end BlockIndex

end Cache

end GradidoNode
