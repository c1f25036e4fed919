import GradidoNode.Cache.FindTransactions
import GradidoNode.Library.Run
import Mathlib.Data.List.TakeDrop
import Mathlib.Order.Bounds.Basic

/-!
# What a block index represents

Over every sequence of calls, those that throw among them, the index shows exactly the
transactions that were added if and only if no call does more before its exception than it
finds done already, no transaction has 256 addresses or more, and none comes after number 0.
-/

namespace GradidoNode

open Library

namespace Cache

/-- The address indices of an entry; whoever reads them stops at the count. -/
def BlockIndexEntry.held (entry : BlockIndexEntry) : List UInt32 :=
  entry.addressIndices.take entry.addressIndiceCount.toNat

namespace BlockIndex

/-- The list of a month, if there is one. -/
def findMonth (index : BlockIndex) (year : Int16) (month : UInt8) : Option (List BlockIndexEntry) :=
  (index.yearMonthAddressIndexEntries.find? year).bind fun months => months.find? month

/-- The first and the last transaction of a month. `front` and `back` of an empty list are not
defined. -/
def findTransactionsForMonthYear (index : BlockIndex) (year : Int16) (month : UInt8) :
    Option (UInt64 × UInt64) :=
  match index.findMonth year month with
  | none => some (0, 0)
  | some entries => do
      let front ← entries.head?
      let back ← entries.getLast?
      return (front.transactionNr, back.transactionNr)

section Months

variable {index : BlockIndex} {year : Int16} {month : UInt8}
  {change : List BlockIndexEntry → List BlockIndexEntry}

/-- A month that is not there has no entries. -/
theorem monthList_eq_findMonth : index.monthList year month = (index.findMonth year month).getD [] := by
  unfold monthList findMonth
  cases index.yearMonthAddressIndexEntries.find? year with
  | none => rfl
  | some months => rfl

/-- A changed month holds the changed list. -/
theorem findMonth_alterMonth_self :
    (index.alterMonth year month change).findMonth year month =
      some (change (index.monthList year month)) := by
  unfold findMonth alterMonth monthList
  dsimp only
  rw [OrderedMap.find?_alter_self, Option.bind_some, OrderedMap.find?_alter_self]

/-- The other months stay as they were. -/
theorem findMonth_alterMonth_of_ne {otherYear : Int16} {otherMonth : UInt8}
    (differ : ¬ (otherYear = year ∧ otherMonth = month)) :
    (index.alterMonth year month change).findMonth otherYear otherMonth =
      index.findMonth otherYear otherMonth := by
  unfold findMonth alterMonth
  dsimp only
  by_cases sameYear : otherYear = year
  · subst sameYear
    have otherOne : otherMonth ≠ month := fun same => differ ⟨rfl, same⟩
    rw [OrderedMap.find?_alter_self, Option.bind_some, OrderedMap.find?_alter_of_ne _ otherOne]
    cases index.yearMonthAddressIndexEntries.find? otherYear with
    | none => rfl
    | some months => rfl
  · rw [OrderedMap.find?_alter_of_ne _ sameYear]

/-- The entries of an index are those of its months. -/
theorem mem_allEntries_iff_findMonth {entry : BlockIndexEntry} :
    entry ∈ index.allEntries ↔
      ∃ year month entries, index.findMonth year month = some entries ∧ entry ∈ entries := by
  rw [mem_allEntries]
  constructor
  · rintro ⟨year, inIndex, month, inYear, member⟩
    refine ⟨year.1, month.1, month.2, ?_, member⟩
    unfold findMonth
    rw [OrderedMap.mem_toList_iff.mp inIndex]
    exact OrderedMap.mem_toList_iff.mp inYear
  · rintro ⟨year, month, entries, found, member⟩
    obtain ⟨months, foundYear, foundMonth⟩ := Option.bind_eq_some_iff.mp found
    exact ⟨(year, months), OrderedMap.mem_toList_iff.mpr foundYear, (month, entries),
      OrderedMap.mem_toList_iff.mpr foundMonth, member⟩

/-- Going to a month that is there changes nothing. -/
theorem years_alterMonth_id_iff :
    (index.alterMonth year month id).yearMonthAddressIndexEntries =
        index.yearMonthAddressIndexEntries ↔ index.findMonth year month ≠ none := by
  constructor
  · intro same absent
    have found := @findMonth_alterMonth_self index year month id
    unfold findMonth at found absent
    rw [same, absent] at found
    cases found
  · intro present
    obtain ⟨entries, found⟩ := Option.ne_none_iff_exists'.mp present
    obtain ⟨months, foundYear, foundMonth⟩ := Option.bind_eq_some_iff.mp found
    have sameMonths : months.alter month (fun present => id (present.getD [])) = months := by
      have set := OrderedMap.set_of_find? foundMonth
      apply OrderedMap.eq_of_find?_eq
      intro other
      by_cases same : other = month
      · rw [same, OrderedMap.find?_alter_self, foundMonth]
        rfl
      · exact OrderedMap.find?_alter_of_ne _ same _
    apply OrderedMap.eq_of_find?_eq
    intro other
    by_cases same : other = year
    · subst same
      refine (OrderedMap.find?_alter_self _ _ _).trans ?_
      rw [foundYear, Option.getD_some, sameMonths]
    · exact OrderedMap.find?_alter_of_ne _ same _

/-- Making sure a month is there adds no entry. -/
theorem mem_alterMonth_id {entry : BlockIndexEntry}
    (member : entry ∈ (index.alterMonth year month id).allEntries) : entry ∈ index.allEntries :=
  (mem_allEntries_alterMonth member).elim id mem_allEntries_of_mem_monthList

end Months

section Widen

variable {index : BlockIndex} {transactionNr : UInt64}

/-- A number within the range does not widen it. -/
theorem widen_eq_self_iff : index.widen transactionNr = index ↔
    index.hasTransactionNr transactionNr = true ∧
      (index.minTransactionNr = 0 → transactionNr = 0) := by
  obtain ⟨greatest, least, fileCursors, years, dirty⟩ := index
  unfold widen hasTransactionNr
  rw [BlockIndex.mk.injEq, Bool.and_eq_true, decide_eq_true_iff, decide_eq_true_iff]
  dsimp only
  grind

/-- Behind the lowest number of the widened range is behind the lowest number. -/
theorem widen_minTransactionNr_lt_iff : (index.widen transactionNr).minTransactionNr < transactionNr ↔
    index.minTransactionNr ≠ 0 ∧ index.minTransactionNr < transactionNr := by
  unfold widen
  dsimp only
  grind

end Widen

/-! ## What a call does -/

/-- File cursor 0 is refused behind the first transaction. -/
def FileCursorRefused (index : BlockIndex) (transactionNr : UInt64) (fileCursor : Int32) : Prop :=
  fileCursor = 0 ∧ index.minTransactionNr ≠ 0 ∧ index.minTransactionNr < transactionNr

/-- Recording the file cursor finds it done already. -/
def FileCursorKept (index : BlockIndex) (transactionNr : UInt64) (fileCursor : Int32) : Prop :=
  fileCursor < 0 ∨ index.transactionNrsFileCursors.find? transactionNr =
    some (keptFileCursor (index.transactionNrsFileCursors.find? transactionNr) fileCursor)

/-- The list of the month ends with the same or a greater number. -/
def OutOfOrder (index : BlockIndex) (year : Int16) (month : UInt8) (transactionNr : UInt64) : Prop :=
  ∃ back ∈ (index.monthList year month).getLast?, transactionNr ≤ back.transactionNr

/-- The indices are refused before their entry is in its list. -/
def IndicesRefused (index : BlockIndex) (indices : TransactionIndices) : Prop :=
  indices.addressIndiceCount > 256 ∨
    index.OutOfOrder indices.year indices.month indices.transactionNr

/-- What adding an entry makes of the index, its file cursors apart. -/
structure Pushed (index : BlockIndex) (indices : TransactionIndices) (next : BlockIndex) : Prop where
  years : next.yearMonthAddressIndexEntries = (index.alterMonth indices.year indices.month
    (· ++ [entryOf indices])).yearMonthAddressIndexEntries
  min : next.minTransactionNr = (index.widen indices.transactionNr).minTransactionNr
  max : next.maxTransactionNr = (index.widen indices.transactionNr).maxTransactionNr
  dirty : next.dirty = true

section Cases

variable {index : BlockIndex} {indices : TransactionIndices}

/-- Appending to a month that was just made appends to it. -/
theorem alterMonth_append {year : Int16} {month : UInt8} {added : List BlockIndexEntry} :
    (index.alterMonth year month id).alterMonth year month (· ++ added) =
      index.alterMonth year month (· ++ added) := by
  unfold alterMonth
  dsimp only
  rw [OrderedMap.alter_alter]
  simp only [Option.getD_some, OrderedMap.alter_alter, id_eq]

/-- The entry is in its list before the file cursor is recorded. -/
theorem pushEntry_cases (indices : TransactionIndices) (entry : BlockIndexEntry)
    (index : BlockIndex) :
    ∃ next, (next.yearMonthAddressIndexEntries = (index.alterMonth indices.year indices.month
        (· ++ [entry])).yearMonthAddressIndexEntries ∧
      next.minTransactionNr = index.minTransactionNr ∧
      next.maxTransactionNr = index.maxTransactionNr ∧ (index.dirty = true → next.dirty = true)) ∧
      ((indices.fileCursor = 0 ∧ indices.transactionNr > index.minTransactionNr ∧ ∃ exception,
        addIndicesForTransaction.pushEntry indices entry index = (.error exception, next)) ∨
      (¬ (indices.fileCursor = 0 ∧ indices.transactionNr > index.minTransactionNr) ∧
        addIndicesForTransaction.pushEntry indices entry index = (.ok (), next))) := by
  unfold addIndicesForTransaction.pushEntry
  dsimp only
  rcases addFileCursorForTransaction_cases indices.transactionNr indices.fileCursor
      (index.alterMonth indices.year indices.month (· ++ [entry])) with
    ⟨negative, ignored⟩ | ⟨zero, behind, exception, refused⟩ | ⟨_, accepted, _, fileCursors, recorded, _⟩
  · rw [ignored]
    refine ⟨_, ⟨rfl, rfl, rfl, id⟩, Or.inr ⟨fun zero => ?_, rfl⟩⟩
    rw [zero.1] at negative
    exact absurd negative (by decide)
  · rw [refused]
    exact ⟨_, ⟨rfl, rfl, rfl, id⟩, Or.inl ⟨zero, behind, exception, rfl⟩⟩
  · rw [recorded]
    exact ⟨{ index.alterMonth indices.year indices.month (· ++ [entry]) with
      dirty := true
      transactionNrsFileCursors := fileCursors }, ⟨rfl, rfl, rfl, fun _ => rfl⟩,
        Or.inr ⟨accepted, rfl⟩⟩

/-- Everything the overload for a receiver can do. -/
theorem addIndicesForTransaction_cases (indices : TransactionIndices) (index : BlockIndex) :
    (index.IndicesRefused indices ∧ ∃ exception, addIndicesForTransaction indices index =
      (.error exception, ({ index with dirty := true }.widen indices.transactionNr).alterMonth
        indices.year indices.month id)) ∨
    (¬ index.IndicesRefused indices ∧ ∃ next, Pushed index indices next ∧
      ((index.FileCursorRefused indices.transactionNr indices.fileCursor ∧ ∃ exception,
        addIndicesForTransaction indices index = (.error exception, next)) ∨
      (¬ index.FileCursorRefused indices.transactionNr indices.fileCursor ∧
        addIndicesForTransaction indices index = (.ok (), next)))) := by
  have sameList : (({ index with dirty := true }.widen indices.transactionNr).alterMonth
      indices.year indices.month id).monthList indices.year indices.month =
        index.monthList indices.year indices.month := by
    rw [monthList_eq_findMonth, findMonth_alterMonth_self]
    rfl
  by_cases refused : index.IndicesRefused indices
  · refine Or.inl ⟨refused, ?_⟩
    unfold addIndicesForTransaction
    dsimp only
    by_cases tooMany : indices.addressIndiceCount > 256
    · rw [if_pos tooMany]
      exact ⟨_, rfl⟩
    · obtain ⟨back, isBack, notAbove⟩ := refused.resolve_left tooMany
      have behind : back.transactionNr ≥ (entryOf indices).transactionNr := notAbove
      rw [if_neg tooMany, sameList, isBack]
      dsimp only
      rw [if_pos behind]
      exact ⟨_, rfl⟩
  · refine Or.inr ⟨refused, ?_⟩
    obtain ⟨tooMany, inOrder⟩ := not_or.mp refused
    obtain ⟨next, ⟨years, min, max, dirty⟩, outcome⟩ := pushEntry_cases indices (entryOf indices)
      (({ index with dirty := true }.widen indices.transactionNr).alterMonth indices.year
        indices.month id)
    have pushes : addIndicesForTransaction indices index =
        addIndicesForTransaction.pushEntry indices (entryOf indices)
          (({ index with dirty := true }.widen indices.transactionNr).alterMonth indices.year
            indices.month id) := by
      unfold addIndicesForTransaction
      dsimp only
      rw [if_neg tooMany, sameList]
      cases isBack : (index.monthList indices.year indices.month).getLast? with
      | none => rfl
      | some back =>
          have above : ¬ back.transactionNr ≥ (entryOf indices).transactionNr :=
            fun notAbove => inOrder ⟨back, isBack, notAbove⟩
          dsimp only
          rw [if_neg above]
    have behind : indices.transactionNr > (index.widen indices.transactionNr).minTransactionNr ↔
        index.minTransactionNr ≠ 0 ∧ index.minTransactionNr < indices.transactionNr :=
      widen_minTransactionNr_lt_iff
    refine ⟨next, ⟨?_, min, max, dirty rfl⟩, ?_⟩
    · rw [years, alterMonth_append]
      rfl
    · rw [pushes]
      unfold FileCursorRefused
      rcases outcome with ⟨zero, above, exception, failed⟩ | ⟨accepted, success⟩
      · exact Or.inl ⟨⟨zero, behind.mp above⟩, exception, failed⟩
      · exact Or.inr ⟨fun wrong => accepted ⟨wrong.1, behind.mpr wrong.2⟩, success⟩

/-- The look-up of the coin community of an entry. -/
def coinCommunityIndexOf (getCommunityIdIndex : String → Except Exception UInt32)
    (transactionEntry : NodeTransactionEntry) : Except Exception UInt32 :=
  if transactionEntry.coinCommunityId.isEmpty then .ok 0
  else getCommunityIdIndex transactionEntry.coinCommunityId

/-- Everything the overload for an entry does before it calls the other one. -/
theorem addIndicesForTransactionEntry_cases
    (getCommunityIdIndex : String → Except Exception UInt32)
    (transactionEntry : NodeTransactionEntry) (index : BlockIndex) :
    (index.FileCursorRefused transactionEntry.transactionNr transactionEntry.fileCursor ∧
      ∃ exception, addIndicesForTransactionEntry getCommunityIdIndex transactionEntry index =
        (.error exception, index.widen transactionEntry.transactionNr)) ∨
    (¬ index.FileCursorRefused transactionEntry.transactionNr transactionEntry.fileCursor ∧
      ∃ fileCursors dirty, (index.dirty = true → dirty = true) ∧
        (fileCursors = index.transactionNrsFileCursors ↔ index.FileCursorKept
          transactionEntry.transactionNr transactionEntry.fileCursor) ∧
        addIndicesForTransactionEntry getCommunityIdIndex transactionEntry index =
          match coinCommunityIndexOf getCommunityIdIndex transactionEntry with
          | .error exception => (.error exception, { index.widen transactionEntry.transactionNr with
              transactionNrsFileCursors := fileCursors
              dirty := dirty })
          | .ok coinCommunityIndex =>
              addIndicesForTransaction (indicesOf transactionEntry coinCommunityIndex)
                { index.widen transactionEntry.transactionNr with
                  transactionNrsFileCursors := fileCursors
                  dirty := dirty }) := by
  have behind : transactionEntry.transactionNr >
      (index.widen transactionEntry.transactionNr).minTransactionNr ↔
        index.minTransactionNr ≠ 0 ∧ index.minTransactionNr < transactionEntry.transactionNr :=
    widen_minTransactionNr_lt_iff
  unfold addIndicesForTransactionEntry FileCursorRefused FileCursorKept coinCommunityIndexOf
  dsimp only
  rcases addFileCursorForTransaction_cases transactionEntry.transactionNr
      transactionEntry.fileCursor (index.widen transactionEntry.transactionNr) with
    ⟨negative, _⟩ | ⟨zero, above, exception, refused⟩ |
      ⟨nonnegative, accepted, outcome, fileCursors, recorded, found, others⟩
  · rw [if_neg (Int32.not_le.mpr negative)]
    refine Or.inr ⟨fun wrong => ?_, index.transactionNrsFileCursors, index.dirty, id,
      iff_of_true rfl (Or.inl negative), rfl⟩
    rw [wrong.1] at negative
    exact absurd negative (by decide)
  · have atLeast : transactionEntry.fileCursor ≥ 0 := by
      rw [zero]
      decide
    rw [if_pos atLeast, refused]
    exact Or.inl ⟨⟨zero, behind.mp above⟩, exception, rfl⟩
  · rw [if_pos (Int32.not_lt.mp nonnegative), recorded]
    refine Or.inr ⟨fun wrong => accepted ⟨wrong.1, behind.mpr wrong.2⟩, fileCursors, true,
      fun _ => rfl, ?_, rfl⟩
    rw [or_iff_right nonnegative]
    constructor
    · rintro rfl
      exact found
    · intro kept
      apply OrderedMap.eq_of_find?_eq
      intro other
      by_cases same : other = transactionEntry.transactionNr
      · rw [same, found, kept]
        rfl
      · exact others other same

end Cases

/-- A call of one of the overloads. The pointer of the first points to as many address
indices as the count says. -/
inductive AddCall where
  | addIndicesForTransaction (indices : TransactionIndices)
      (counted : indices.addressIndices.length = indices.addressIndiceCount.toNat)
  | addIndicesForTransactionEntry (getCommunityIdIndex : String → Except Exception UInt32)
      (transactionEntry : NodeTransactionEntry)

namespace AddCall

def run : AddCall → Throwing BlockIndex Unit
  | .addIndicesForTransaction indices _ => BlockIndex.addIndicesForTransaction indices
  | .addIndicesForTransactionEntry getCommunityIdIndex transactionEntry =>
      BlockIndex.addIndicesForTransactionEntry getCommunityIdIndex transactionEntry

/-- The arguments of the call, whatever its coin community. -/
def indices : AddCall → TransactionIndices
  | .addIndicesForTransaction indices _ => indices
  | .addIndicesForTransactionEntry _ transactionEntry => indicesOf transactionEntry 0

/-- The call throws before its entry is in the list of the month. -/
def Refused (index : BlockIndex) : AddCall → Prop
  | .addIndicesForTransaction indices _ => index.IndicesRefused indices
  | .addIndicesForTransactionEntry getCommunityIdIndex transactionEntry =>
      index.FileCursorRefused transactionEntry.transactionNr transactionEntry.fileCursor ∨
      (∃ exception, coinCommunityIndexOf getCommunityIdIndex transactionEntry = .error exception) ∨
      index.IndicesRefused (indicesOf transactionEntry 0)

/-- What the call does before it throws, the range apart, it finds done already. -/
def DoneAlready (index : BlockIndex) : AddCall → Prop
  | .addIndicesForTransaction indices _ => index.findMonth indices.year indices.month ≠ none
  | .addIndicesForTransactionEntry getCommunityIdIndex transactionEntry =>
      index.FileCursorRefused transactionEntry.transactionNr transactionEntry.fileCursor ∨
      index.FileCursorKept transactionEntry.transactionNr transactionEntry.fileCursor ∧
        ((∃ exception,
          coinCommunityIndexOf getCommunityIdIndex transactionEntry = .error exception) ∨
        index.findMonth transactionEntry.year transactionEntry.month ≠ none)

/-- Equality of the index, field by field. -/
theorem eq_iff {index next : BlockIndex} :
    next = index ↔ (next.maxTransactionNr = index.maxTransactionNr ∧
        next.minTransactionNr = index.minTransactionNr) ∧
      next.transactionNrsFileCursors = index.transactionNrsFileCursors ∧
      next.yearMonthAddressIndexEntries = index.yearMonthAddressIndexEntries ∧
      next.dirty = index.dirty := by
  cases index
  cases next
  simp only [BlockIndex.mk.injEq, and_assoc]

/-- The range stays as it is exactly if its two ends do. -/
theorem widen_eq_self_iff_fields {index : BlockIndex} {transactionNr : UInt64} :
    index.widen transactionNr = index ↔
      (index.widen transactionNr).maxTransactionNr = index.maxTransactionNr ∧
        (index.widen transactionNr).minTransactionNr = index.minTransactionNr := by
  rw [eq_iff]
  exact and_iff_left ⟨rfl, rfl, rfl⟩

/-- A refused call brings in no entry, and leaves the index unchanged where everything is done
already. -/
theorem run_of_refused {call : AddCall} {index : BlockIndex} (refused : call.Refused index) :
    ∃ exception next, call.run index = (.error exception, next) ∧
      (∀ entry ∈ next.allEntries, entry ∈ index.allEntries) ∧
      (index.dirty = true → (next = index ↔
        index.widen call.indices.transactionNr = index ∧ call.DoneAlready index)) := by
  cases call with
  | addIndicesForTransaction indices counted =>
      rcases addIndicesForTransaction_cases indices index with
        ⟨_, exception, failed⟩ | ⟨accepted, _⟩
      · refine ⟨exception, _, failed, fun entry member => mem_alterMonth_id member, fun dirty => ?_⟩
        rw [eq_iff, widen_eq_self_iff_fields]
        refine and_congr_right fun _ => ?_
        exact (and_iff_right rfl).trans ((and_iff_left dirty.symm).trans years_alterMonth_id_iff)
      · exact absurd refused accepted
  | addIndicesForTransactionEntry getCommunityIdIndex transactionEntry =>
      change index.FileCursorRefused _ _ ∨ _ at refused
      change ∃ exception next, BlockIndex.addIndicesForTransactionEntry _ _ index = _ ∧ _ ∧
        (_ → (_ ↔ _ ∧ (index.FileCursorRefused _ _ ∨ index.FileCursorKept _ _ ∧
          ((∃ exception, coinCommunityIndexOf _ _ = .error exception) ∨ _))))
      rcases addIndicesForTransactionEntry_cases getCommunityIdIndex transactionEntry index with
        ⟨cursorRefused, exception, failed⟩ |
          ⟨cursorTaken, fileCursors, dirty, staysDirty, sameCursors, outcome⟩
      · refine ⟨exception, _, failed, fun entry member => member, fun _ => ?_⟩
        rw [and_iff_left (Or.inl cursorRefused)]
        exact Iff.rfl
      · rw [outcome, or_iff_right cursorTaken]
        cases looked : coinCommunityIndexOf getCommunityIdIndex transactionEntry with
        | error exception =>
            refine ⟨exception, _, rfl, fun entry member => member, fun isDirty => ?_⟩
            rw [eq_iff, widen_eq_self_iff_fields]
            refine and_congr_right fun _ => ?_
            rw [and_iff_left (Or.inl ⟨exception, rfl⟩), ← sameCursors]
            exact and_iff_left ⟨rfl, (staysDirty isDirty).trans isDirty.symm⟩
        | ok coinCommunityIndex =>
            have found : ¬ ∃ exception, (.ok coinCommunityIndex : Except Exception UInt32) =
                .error exception := by
              rintro ⟨_, ⟨⟩⟩
            rw [looked, or_iff_right cursorTaken, or_iff_right found] at refused
            dsimp only
            rcases addIndicesForTransaction_cases (indicesOf transactionEntry coinCommunityIndex)
                { index.widen transactionEntry.transactionNr with
                  transactionNrsFileCursors := fileCursors
                  dirty := dirty } with ⟨_, exception, failed⟩ | ⟨accepted, _⟩
            · refine ⟨exception, _, failed, fun entry member => mem_alterMonth_id member,
                fun isDirty => ?_⟩
              rw [eq_iff, widen_eq_self_iff_fields, or_iff_right found, ← sameCursors]
              have twice := widen_widen index transactionEntry.transactionNr
              have greatest := congrArg maxTransactionNr twice
              have least := congrArg minTransactionNr twice
              refine and_congr ?_ (and_congr Iff.rfl ?_)
              · exact Iff.of_eq (congrArg₂ (fun greatest least =>
                  greatest = index.maxTransactionNr ∧ least = index.minTransactionNr)
                    greatest least)
              · exact (and_iff_left isDirty.symm).trans years_alterMonth_id_iff
            · exact absurd refused accepted

/-- Any other call brings in its entry, and throws where the file cursor is refused. -/
theorem run_of_not_refused {call : AddCall} {index : BlockIndex}
    (accepted : ¬ call.Refused index) :
    ∃ coinCommunityIndex next,
      Pushed index { call.indices with coinCommunityIdIndex := coinCommunityIndex } next ∧
      ((index.FileCursorRefused call.indices.transactionNr call.indices.fileCursor ∧
        ∃ exception, call.run index = (.error exception, next)) ∨
      (¬ index.FileCursorRefused call.indices.transactionNr call.indices.fileCursor ∧
        call.run index = (.ok (), next))) := by
  cases call with
  | addIndicesForTransaction indices counted =>
      rcases addIndicesForTransaction_cases indices index with ⟨refused, _⟩ | ⟨_, next, outcome⟩
      · exact absurd refused accepted
      · exact ⟨indices.coinCommunityIdIndex, next, outcome⟩
  | addIndicesForTransactionEntry getCommunityIdIndex transactionEntry =>
      obtain ⟨cursorTaken, others⟩ := not_or.mp accepted
      obtain ⟨found, indicesTaken⟩ := not_or.mp others
      rcases addIndicesForTransactionEntry_cases getCommunityIdIndex transactionEntry index with
        ⟨cursorRefused, _⟩ | ⟨_, fileCursors, dirty, _, _, outcome⟩
      · exact absurd cursorRefused cursorTaken
      · cases looked : coinCommunityIndexOf getCommunityIdIndex transactionEntry with
        | error exception => exact absurd ⟨exception, looked⟩ found
        | ok coinCommunityIndex =>
            rw [looked] at outcome
            rcases addIndicesForTransaction_cases (indicesOf transactionEntry coinCommunityIndex)
                { index.widen transactionEntry.transactionNr with
                  transactionNrsFileCursors := fileCursors
                  dirty := dirty } with ⟨refused, _⟩ | ⟨_, next, pushed, result⟩
            · exact absurd refused indicesTaken
            · have twice := widen_widen index transactionEntry.transactionNr
              have greatest := congrArg maxTransactionNr twice
              have least := congrArg minTransactionNr twice
              have behind := @widen_minTransactionNr_lt_iff index transactionEntry.transactionNr
              refine ⟨coinCommunityIndex, next, ⟨pushed.years, pushed.min.trans least,
                pushed.max.trans greatest, pushed.dirty⟩, ?_⟩
              rcases result with ⟨⟨zero, _, above⟩, _⟩ | ⟨_, success⟩
              · exact absurd ⟨zero, behind.mp above⟩ cursorTaken
              · exact Or.inr ⟨cursorTaken, outcome.trans success⟩

end AddCall

/-! ## What the index shows -/

/-- The numbers that have an entry. -/
def numbers (index : BlockIndex) : Set UInt64 :=
  {transactionNr | ∃ entry ∈ index.allEntries, entry.transactionNr = transactionNr}

/-- The range is that of the entries, and 0 where there are none. -/
structure RangeExact (index : BlockIndex) : Prop where
  empty : index.allEntries = [] → index.minTransactionNr = 0 ∧ index.maxTransactionNr = 0
  least : index.allEntries ≠ [] → IsLeast index.numbers index.minTransactionNr
  greatest : index.allEntries ≠ [] → IsGreatest index.numbers index.maxTransactionNr

/-- The numbers follow each other without a gap. -/
def Consecutive (transactionNrs : List UInt64) : Prop :=
  ∃ first, transactionNrs.map UInt64.toNat = List.range' first transactionNrs.length

/-- Between two consecutive numbers that were added, every number was. -/
theorem Consecutive.mem {transactionNrs : List UInt64} (consecutive : Consecutive transactionNrs)
    {least greatest transactionNr : UInt64} (low : least ∈ transactionNrs)
    (high : greatest ∈ transactionNrs) (above : least ≤ transactionNr)
    (below : transactionNr ≤ greatest) : transactionNr ∈ transactionNrs := by
  obtain ⟨first, numbers⟩ := consecutive
  have lowNumber : least.toNat ∈ transactionNrs.map UInt64.toNat := List.mem_map_of_mem low
  have highNumber : greatest.toNat ∈ transactionNrs.map UInt64.toNat := List.mem_map_of_mem high
  rw [numbers, List.mem_range'_1] at lowNumber highNumber
  rw [UInt64.le_iff_toNat_le] at above below
  have between : transactionNr.toNat ∈ transactionNrs.map UInt64.toNat := by
    rw [numbers, List.mem_range'_1]
    omega
  obtain ⟨other, member, same⟩ := List.mem_map.mp between
  rwa [← UInt64.toNat_inj.mp same]

/-- What was added for a month. -/
def addedIn (added : List TransactionIndices) (year : Int16) (month : UInt8) :
    List TransactionIndices :=
  added.filter fun indices => indices.year = year ∧ indices.month = month

/-- An added transaction is counted in its month. -/
theorem mem_addedIn {added : List TransactionIndices} {indices : TransactionIndices}
    (member : indices ∈ added) : indices ∈ addedIn added indices.year indices.month := by
  unfold addedIn
  rw [List.mem_filter]
  exact ⟨member, decide_eq_true ⟨rfl, rfl⟩⟩

/-- A further one is counted last in its month. -/
theorem addedIn_append_self (added : List TransactionIndices) (indices : TransactionIndices) :
    addedIn (added ++ [indices]) indices.year indices.month =
      addedIn added indices.year indices.month ++ [indices] := by
  unfold addedIn
  rw [List.filter_append]
  simp

/-- And in no other month. -/
theorem addedIn_append_of_ne (added : List TransactionIndices) {indices : TransactionIndices}
    {year : Int16} {month : UInt8} (differ : ¬ (year = indices.year ∧ month = indices.month)) :
    addedIn (added ++ [indices]) year month = addedIn added year month := by
  have other : ¬ (indices.year = year ∧ indices.month = month) :=
    fun same => differ ⟨same.1.symm, same.2.symm⟩
  unfold addedIn
  rw [List.filter_append]
  simp [other]

/-- An index that is being filled, what was added by calls that returned, and whether all calls
that threw left the index unchanged. -/
structure Filling where
  index : BlockIndex
  added : List TransactionIndices
  unchanged : Bool

namespace Filling

def new : Filling where
  index := BlockIndex.new
  added := []
  unchanged := true

def step (filling : Filling) (call : AddCall) : Option Filling :=
  match call.run filling.index with
  | (.ok _, index) => some { filling with
      index := index
      added := filling.added ++ [call.indices] }
  | (.error _, index) => some { filling with
      index := index
      unchanged := filling.unchanged && decide (index = filling.index) }

/-- The index shows what was added to it. -/
structure Shows (filling : Filling) : Prop where
  years : ∀ year months,
    filling.index.yearMonthAddressIndexEntries.find? year = some months → months ≠ ∅
  nonempty : ∀ year month entries, filling.index.findMonth year month = some entries → entries ≠ []
  ascending : ∀ year month, (filling.index.monthList year month).Pairwise fun first second =>
    first.transactionNr < second.transactionNr
  range : filling.index.RangeExact
  /-- Every month holds what was added for it, with all address indices. -/
  held : ∀ year month, ((filling.index.monthList year month).map fun entry =>
      (entry.transactionNr, entry.held)) =
    (addedIn filling.added year month).map fun indices =>
      (indices.transactionNr, indices.addressIndices)
  unchanged : filling.unchanged = true

/-- The index shows what was added, and knows which numbers it has. -/
structure Represents (filling : Filling) : Prop extends Shows filling where
  hasTransactionNr : Consecutive (filling.added.map TransactionIndices.transactionNr) →
    ∀ transactionNr, filling.index.hasTransactionNr transactionNr = true ↔
      transactionNr ∈ filling.index.numbers

end Filling

/-- The conditions under which the index shows a call rightly: a number other than 0 is not
added to an index with number 0; a call that is refused finds a number within the range and
everything done already; any other has fewer than 256 address indices and a file cursor
that is not refused. -/
structure AddCall.ShownRight (index : BlockIndex) (call : AddCall) : Prop where
  noZero : call.indices.transactionNr = 0 ∨ 0 ∉ index.numbers
  refused : call.Refused index → index.allEntries ≠ [] ∧
    index.hasTransactionNr call.indices.transactionNr = true ∧ call.DoneAlready index
  added : ¬ call.Refused index →
    ¬ index.FileCursorRefused call.indices.transactionNr call.indices.fileCursor ∧
      call.indices.addressIndices.length < 256

namespace Pushed

variable {index next : BlockIndex} {indices : TransactionIndices}

/-- After a push the month ends with the new entry. -/
theorem findMonth_self (pushed : Pushed index indices next) :
    next.findMonth indices.year indices.month =
      some (index.monthList indices.year indices.month ++ [entryOf indices]) := by
  unfold findMonth
  rw [pushed.years]
  exact findMonth_alterMonth_self

/-- A push leaves the other months alone. -/
theorem findMonth_of_ne (pushed : Pushed index indices next) {year : Int16} {month : UInt8}
    (differ : ¬ (year = indices.year ∧ month = indices.month)) :
    next.findMonth year month = index.findMonth year month := by
  have kept := @findMonth_alterMonth_of_ne index indices.year indices.month
    (· ++ [entryOf indices]) year month differ
  unfold findMonth at kept ⊢
  rw [pushed.years, kept]

/-- The list of the month after a push. -/
theorem monthList_self (pushed : Pushed index indices next) :
    next.monthList indices.year indices.month =
      index.monthList indices.year indices.month ++ [entryOf indices] := by
  rw [monthList_eq_findMonth, pushed.findMonth_self]
  rfl

/-- The lists of the other months after a push. -/
theorem monthList_of_ne (pushed : Pushed index indices next) {year : Int16} {month : UInt8}
    (differ : ¬ (year = indices.year ∧ month = indices.month)) :
    next.monthList year month = index.monthList year month := by
  rw [monthList_eq_findMonth, monthList_eq_findMonth, pushed.findMonth_of_ne differ]

/-- A push adds one entry to the index. -/
theorem allEntries_perm (pushed : Pushed index indices next) :
    next.allEntries.Perm (index.allEntries ++ [entryOf indices]) := by
  have appended := @allEntries_alterMonth_perm index indices.year indices.month
    (· ++ [entryOf indices]) [entryOf indices] fun _ => rfl
  unfold allEntries at appended ⊢
  rwa [pushed.years]

/-- After a push the index has an entry. -/
theorem allEntries_ne_nil (pushed : Pushed index indices next) : next.allEntries ≠ [] := by
  have member : entryOf indices ∈ next.allEntries :=
    pushed.allEntries_perm.mem_iff.mpr (List.mem_append_right _ (List.mem_singleton_self _))
  exact List.ne_nil_of_mem member

/-- The numbers after a push are those before and the new one. -/
theorem numbers_eq (pushed : Pushed index indices next) :
    next.numbers = insert indices.transactionNr index.numbers := by
  ext transactionNr
  change (∃ entry ∈ next.allEntries, entry.transactionNr = transactionNr) ↔
    transactionNr = indices.transactionNr ∨
      ∃ entry ∈ index.allEntries, entry.transactionNr = transactionNr
  simp only [pushed.allEntries_perm.mem_iff, List.mem_append, List.mem_singleton]
  constructor
  · rintro ⟨entry, old | rfl, same⟩
    · exact Or.inr ⟨entry, old, same⟩
    · exact Or.inl same.symm
  · rintro (rfl | ⟨entry, old, same⟩)
    · exact ⟨entryOf indices, Or.inr rfl, rfl⟩
    · exact ⟨entry, Or.inl old, same⟩

/-- A push leaves no year without a month. -/
theorem years_ne_empty (pushed : Pushed index indices next)
    (years : ∀ year months,
      index.yearMonthAddressIndexEntries.find? year = some months → months ≠ ∅)
    (year : Int16) (months : MonthEntries)
    (found : next.yearMonthAddressIndexEntries.find? year = some months) : months ≠ ∅ := by
  rw [pushed.years] at found
  unfold alterMonth at found
  dsimp only at found
  by_cases same : year = indices.year
  · rw [same, OrderedMap.find?_alter_self] at found
    cases found
    exact OrderedMap.alter_ne_empty _ _ _
  · rw [OrderedMap.find?_alter_of_ne _ same] at found
    exact years year months found

/-- The range stays exact if and only if 0 is not taken for an empty range. -/
theorem rangeExact_iff (pushed : Pushed index indices next) (ranged : index.RangeExact) :
    next.RangeExact ↔ indices.transactionNr = 0 ∨ 0 ∉ index.numbers := by
  have some := pushed.allEntries_ne_nil
  constructor
  · intro nextRanged
    by_contra wrong
    obtain ⟨nonzero, zero⟩ := not_or.mp wrong
    rw [not_not] at zero
    obtain ⟨entry, member, isZero⟩ := zero
    have least := (ranged.least (List.ne_nil_of_mem member)).2 ⟨entry, member, isZero⟩
    have zeroStays : 0 ∈ next.numbers := by
      rw [pushed.numbers_eq]
      exact Set.mem_insert_of_mem _ ⟨entry, member, isZero⟩
    have nextLeast := (nextRanged.least some).2 zeroStays
    rw [pushed.min] at nextLeast
    have widened : (index.widen indices.transactionNr).minTransactionNr = indices.transactionNr :=
      if_pos (Or.inl (UInt64.le_zero_iff.mp least))
    rw [widened] at nextLeast
    exact nonzero (UInt64.le_zero_iff.mp nextLeast)
  · intro noZero
    by_cases none : index.allEntries = []
    · obtain ⟨least, greatest⟩ := ranged.empty none
      have numbers : next.numbers = {indices.transactionNr} := by
        have noNumbers : index.numbers = ∅ := by
          apply Set.eq_empty_of_forall_notMem
          rintro transactionNr ⟨entry, member, _⟩
          rw [none] at member
          cases member
        rw [pushed.numbers_eq, noNumbers, insert_empty_eq]
      have min : next.minTransactionNr = indices.transactionNr :=
        pushed.min.trans (if_pos (Or.inl least))
      have max : next.maxTransactionNr = indices.transactionNr := by
        rw [pushed.max]
        unfold widen
        dsimp only
        rw [greatest]
        grind
      refine ⟨fun empty => absurd empty some, fun _ => ?_, fun _ => ?_⟩
      · rw [numbers, min]
        exact isLeast_singleton
      · rw [numbers, max]
        exact isGreatest_singleton
    · have least := ranged.least none
      have min : next.minTransactionNr = Min.min indices.transactionNr index.minTransactionNr := by
        have zero : index.minTransactionNr = 0 → indices.transactionNr = 0 := by
          intro isZero
          exact noZero.resolve_right fun absent => absent (isZero ▸ least.1)
        rw [pushed.min]
        unfold widen
        dsimp only
        grind
      have max : next.maxTransactionNr = Max.max indices.transactionNr index.maxTransactionNr := by
        rw [pushed.max]
        unfold widen
        dsimp only
        grind
      refine ⟨fun empty => absurd empty some, fun _ => ?_, fun _ => ?_⟩
      · rw [pushed.numbers_eq, min]
        exact least.insert _
      · rw [pushed.numbers_eq, max]
        exact (ranged.greatest none).insert _

end Pushed

/-- A month stays ascending behind an entry that is not out of order. -/
theorem pairwise_append_entry {index : BlockIndex} {indices : TransactionIndices}
    (ascending : (index.monthList indices.year indices.month).Pairwise fun first second =>
      first.transactionNr < second.transactionNr)
    (inOrder : ¬ index.OutOfOrder indices.year indices.month indices.transactionNr) :
    (index.monthList indices.year indices.month ++ [entryOf indices]).Pairwise fun first second =>
      first.transactionNr < second.transactionNr := by
  refine List.pairwise_append.mpr ⟨ascending, List.pairwise_singleton _ _, ?_⟩
  intro entry member other isNew
  rw [List.mem_singleton.mp isNew]
  have some := List.getLast?_eq_some_getLast (List.ne_nil_of_mem member)
  have above : ((index.monthList indices.year indices.month).getLast
      (List.ne_nil_of_mem member)).transactionNr < indices.transactionNr := by
    apply lt_of_not_ge
    intro notAbove
    exact inOrder ⟨_, some, notAbove⟩
  obtain ⟨before, split⟩ := List.getLast?_eq_some_iff.mp some
  rw [split] at member ascending
  rcases List.mem_append.mp member with inBefore | isLast
  · exact lt_trans ((List.pairwise_append.mp ascending).2.2 entry inBefore _
      (List.mem_singleton_self _)) above
  · rw [List.mem_singleton.mp isLast]
    exact above

namespace AddCall

/-- The count is that of the address indices, cut to 16 bits. -/
theorem addressIndiceCount_eq (call : AddCall) :
    call.indices.addressIndiceCount = UInt16.ofNat call.indices.addressIndices.length := by
  cases call with
  | addIndicesForTransaction indices counted =>
      change indices.addressIndiceCount = UInt16.ofNat indices.addressIndices.length
      rw [counted, UInt16.ofNat_toNat]
  | addIndicesForTransactionEntry getCommunityIdIndex transactionEntry => rfl

/-- An entry holds all its address indices if and only if there are fewer than 256. -/
theorem held_entryOf_iff (call : AddCall) (coinCommunityIndex : UInt32) :
    (entryOf { call.indices with coinCommunityIdIndex := coinCommunityIndex }).held =
      call.indices.addressIndices ↔ call.indices.addressIndices.length < 256 := by
  have count := call.addressIndiceCount_eq
  have kept : (UInt16.ofNat call.indices.addressIndices.length).toUInt8.toNat =
      call.indices.addressIndices.length % 256 := by
    rw [UInt16.toNat_toUInt8, UInt16.toNat_ofNat']
    omega
  unfold entryOf BlockIndexEntry.held
  dsimp only
  rw [count, kept, List.take_take, List.take_eq_self_iff, UInt16.toNat_ofNat']
  omega

end AddCall

namespace Filling

variable {filling : Filling}

/-- Where months are shown, an empty index is one to which nothing was added. -/
theorem Shows.added_eq_nil (shows_ : filling.Shows) (empty : filling.index.allEntries = []) :
    filling.added = [] := by
  apply List.eq_nil_iff_forall_not_mem.mpr
  intro indices member
  have held := shows_.held indices.year indices.month
  have none : filling.index.monthList indices.year indices.month = [] := by
    apply List.eq_nil_iff_forall_not_mem.mpr
    intro entry inMonth
    have inIndex := mem_allEntries_of_mem_monthList inMonth
    rw [empty] at inIndex
    cases inIndex
  have inMonth := mem_addedIn member
  rw [none, List.map_nil] at held
  rw [List.map_eq_nil_iff.mp held.symm] at inMonth
  cases inMonth

/-- No month is asked for the front or the back of an empty list. -/
theorem Shows.findTransactionsForMonthYear_ne_none (shows_ : filling.Shows) (year : Int16)
    (month : UInt8) : filling.index.findTransactionsForMonthYear year month ≠ none := by
  unfold findTransactionsForMonthYear
  cases found : filling.index.findMonth year month with
  | none => exact Option.some_ne_none _
  | some entries =>
      have some := shows_.nonempty year month entries found
      dsimp only
      rw [List.head?_eq_some_head some, List.getLast?_eq_some_getLast some]
      exact Option.some_ne_none _

/-- The oldest month is the first of the first year, which has one. -/
theorem Shows.getOldestYearMonth_eq (shows_ : filling.Shows) {year : Int16 × MonthEntries}
    {years : List (Int16 × MonthEntries)}
    (first : filling.index.yearMonthAddressIndexEntries.toList = year :: years) :
    ∃ month months, year.2.toList = month :: months ∧
      filling.index.getOldestYearMonth = toLex (year.1, month.1) := by
  have found : filling.index.yearMonthAddressIndexEntries.find? year.1 = some year.2 :=
    OrderedMap.mem_toList_iff.mp (first ▸ List.mem_cons_self ..)
  cases months : year.2.toList with
  | nil => exact absurd (OrderedMap.ext months) (shows_.years year.1 year.2 found)
  | cons month rest =>
      refine ⟨month, rest, rfl, ?_⟩
      unfold getOldestYearMonth allMonths
      rw [first, List.flatMap_cons, months]
      rfl

/-- The numbers that were added are those that have an entry. -/
theorem Shows.mem_numbers_iff (shows_ : filling.Shows) {transactionNr : UInt64} :
    transactionNr ∈ filling.index.numbers ↔
      transactionNr ∈ filling.added.map TransactionIndices.transactionNr := by
  constructor
  · rintro ⟨entry, member, rfl⟩
    obtain ⟨year, month, entries, found, inMonth⟩ := mem_allEntries_iff_findMonth.mp member
    have held := shows_.held year month
    rw [monthList_eq_findMonth, found, Option.getD_some] at held
    have shown : (entry.transactionNr, entry.held) ∈
        entries.map fun entry => (entry.transactionNr, entry.held) := List.mem_map_of_mem inMonth
    rw [held] at shown
    obtain ⟨indices, inFilter, same⟩ := List.mem_map.mp shown
    exact List.mem_map.mpr ⟨indices, (List.mem_filter.mp inFilter).1, congrArg Prod.fst same⟩
  · intro member
    obtain ⟨indices, isAdded, rfl⟩ := List.mem_map.mp member
    have shown : (indices.transactionNr, indices.addressIndices) ∈
        (addedIn filling.added indices.year indices.month).map fun other =>
          (other.transactionNr, other.addressIndices) := List.mem_map_of_mem (mem_addedIn isAdded)
    rw [← shows_.held indices.year indices.month] at shown
    obtain ⟨entry, inMonth, same⟩ := List.mem_map.mp shown
    exact ⟨entry, mem_allEntries_of_mem_monthList inMonth, congrArg Prod.fst same⟩

/-- An index that is not empty knows the numbers it has. -/
theorem Shows.represents (shows_ : filling.Shows) (some : filling.index.allEntries ≠ []) :
    filling.Represents where
  toShows := shows_
  hasTransactionNr consecutive transactionNr := by
    have least := shows_.range.least some
    have greatest := shows_.range.greatest some
    unfold BlockIndex.hasTransactionNr
    rw [Bool.and_eq_true, decide_eq_true_iff, decide_eq_true_iff]
    constructor
    · rintro ⟨above, below⟩
      exact shows_.mem_numbers_iff.mpr (consecutive.mem (shows_.mem_numbers_iff.mp least.1)
        (shows_.mem_numbers_iff.mp greatest.1) above below)
    · intro member
      exact ⟨least.2 member, greatest.2 member⟩

/-- An index without entries takes number 0 for one that it has. -/
theorem Represents.allEntries_ne_nil (represents : filling.Represents) :
    filling.index.allEntries ≠ [] := by
  intro empty
  have none := represents.toShows.added_eq_nil empty
  obtain ⟨least, greatest⟩ := represents.range.empty empty
  have consecutive : Consecutive (filling.added.map TransactionIndices.transactionNr) := by
    rw [none]
    exact ⟨0, rfl⟩
  have has : filling.index.hasTransactionNr 0 = true := by
    unfold BlockIndex.hasTransactionNr
    rw [least, greatest]
    rfl
  obtain ⟨entry, member, _⟩ := (represents.hasTransactionNr consecutive 0).mp has
  rw [empty] at member
  cases member

/-- What is to be shown after one call: what was shown before it, with its entry last in its
month. -/
theorem Shows.add (shows_ : filling.Shows) {call : AddCall} {coinCommunityIndex : UInt32}
    {next : BlockIndex} (accepted : ¬ call.Refused filling.index)
    (right : call.ShownRight filling.index)
    (pushed : Pushed filling.index
      { call.indices with coinCommunityIdIndex := coinCommunityIndex } next) :
    Shows { filling with index := next, added := filling.added ++ [call.indices] } where
  years := pushed.years_ne_empty shows_.years
  nonempty year month entries found := by
    dsimp only at found
    by_cases same : year = call.indices.year ∧ month = call.indices.month
    · rw [same.1, same.2] at found
      cases pushed.findMonth_self.symm.trans found
      exact List.append_ne_nil_of_right_ne_nil _ (List.cons_ne_nil _ _)
    · exact shows_.nonempty year month entries ((pushed.findMonth_of_ne same).symm.trans found)
  ascending year month := by
    by_cases same : year = call.indices.year ∧ month = call.indices.month
    · rw [same.1, same.2]
      have inOrder : ¬ filling.index.OutOfOrder call.indices.year call.indices.month
          call.indices.transactionNr := by
        intro outOfOrder
        apply accepted
        cases call with
        | addIndicesForTransaction indices counted => exact Or.inr outOfOrder
        | addIndicesForTransactionEntry getCommunityIdIndex transactionEntry =>
            exact Or.inr (Or.inr (Or.inr outOfOrder))
      have appended := pushed.monthList_self
      dsimp only at appended ⊢
      rw [appended]
      exact @pairwise_append_entry filling.index
        { call.indices with coinCommunityIdIndex := coinCommunityIndex }
        (shows_.ascending _ _) inOrder
    · have kept := pushed.monthList_of_ne same
      dsimp only at kept ⊢
      rw [kept]
      exact shows_.ascending year month
  range := (pushed.rangeExact_iff shows_.range).mpr right.noZero
  held year month := by
    dsimp only
    by_cases same : year = call.indices.year ∧ month = call.indices.month
    · have appended := pushed.monthList_self
      dsimp only at appended
      rw [same.1, same.2, appended, addedIn_append_self, List.map_append, List.map_append,
        shows_.held, List.map_singleton, List.map_singleton,
        (call.held_entryOf_iff coinCommunityIndex).mpr (right.added accepted).2]
      rfl
    · rw [addedIn_append_of_ne _ same, pushed.monthList_of_ne same, shows_.held]
  unchanged := shows_.unchanged

/-- Between calls: what was added is shown, and an index with entries is to be saved. -/
structure Valid (filling : Filling) : Prop extends Shows filling where
  dirty : filling.index.allEntries ≠ [] → filling.index.dirty = true

/-- A fresh index is valid. -/
theorem valid_new : Valid new where
  years _ _ found := by cases found
  nonempty _ _ _ found := by cases found
  ascending _ _ := List.Pairwise.nil
  range := ⟨fun _ => ⟨rfl, rfl⟩, fun some => absurd rfl some, fun some => absurd rfl some⟩
  held _ _ := rfl
  unchanged := rfl
  dirty some := absurd rfl some

/-- A number within the range that meets no number 0 leaves the range alone. -/
theorem Shows.widen_eq_self (shows_ : filling.Shows) (some : filling.index.allEntries ≠ [])
    {transactionNr : UInt64} (has : filling.index.hasTransactionNr transactionNr = true)
    (noZero : transactionNr = 0 ∨ 0 ∉ filling.index.numbers) :
    filling.index.widen transactionNr = filling.index := by
  refine widen_eq_self_iff.mpr ⟨has, fun zero => ?_⟩
  have least := (shows_.range.least some).1
  rw [zero] at least
  exact noZero.resolve_right fun absent => absent least

/-- A call whose arguments are right keeps the filling valid and the index its representation. -/
theorem Valid.step (valid : filling.Valid) {call : AddCall}
    (right : call.ShownRight filling.index) {next : Filling}
    (taken : filling.step call = some next) : next.Valid ∧ next.Represents := by
  unfold Filling.step at taken
  by_cases refused : call.Refused filling.index
  · obtain ⟨some, has, done⟩ := right.refused refused
    obtain ⟨exception, index, failed, _, same⟩ := AddCall.run_of_refused refused
    have isSame := (same (valid.dirty some)).mpr ⟨valid.widen_eq_self some has right.noZero, done⟩
    rw [failed, isSame] at taken
    have isNext : next = filling := by
      rw [← Option.some.inj taken, decide_eq_true rfl, Bool.and_true]
    rw [isNext]
    exact ⟨valid, valid.represents some⟩
  · obtain ⟨coinCommunityIndex, index, pushed, outcome⟩ := AddCall.run_of_not_refused refused
    rcases outcome with ⟨cursorRefused, _⟩ | ⟨_, success⟩
    · exact absurd cursorRefused (right.added refused).1
    · rw [success] at taken
      have shows_ := valid.toShows.add refused right pushed
      rw [← Option.some.inj taken]
      exact ⟨⟨shows_, fun _ => pushed.dirty⟩, shows_.represents pushed.allEntries_ne_nil⟩

/-- The conditions are met where the index represents what was added after the call. -/
theorem Valid.shownRight (valid : filling.Valid) {call : AddCall}
    (represents : ∀ next, filling.step call = some next → next.Represents) :
    call.ShownRight filling.index := by
  unfold Filling.step at represents
  by_cases refused : call.Refused filling.index
  · obtain ⟨exception, index, failed, old, same⟩ := AddCall.run_of_refused refused
    rw [failed] at represents
    have after := represents _ rfl
    obtain ⟨_, unchanged⟩ := Bool.and_eq_true_iff.mp after.unchanged
    have isSame : index = filling.index := of_decide_eq_true unchanged
    have some : filling.index.allEntries ≠ [] := isSame ▸ after.allEntries_ne_nil
    obtain ⟨widened, done⟩ := (same (valid.dirty some)).mp isSame
    obtain ⟨has, zero⟩ := widen_eq_self_iff.mp widened
    refine ⟨?_, fun _ => ⟨some, has, done⟩, fun accepted => absurd refused accepted⟩
    apply or_iff_not_imp_right.mpr
    intro isZero
    have least := (valid.range.least some).2 (not_not.mp isZero)
    exact zero (UInt64.le_zero_iff.mp least)
  · obtain ⟨coinCommunityIndex, index, pushed, outcome⟩ := AddCall.run_of_not_refused refused
    rcases outcome with ⟨_, exception, failed⟩ | ⟨cursorTaken, success⟩
    · rw [failed] at represents
      obtain ⟨_, unchanged⟩ := Bool.and_eq_true_iff.mp (represents _ rfl).unchanged
      have isSame : index = filling.index := of_decide_eq_true unchanged
      have longer := pushed.allEntries_perm.length_eq
      rw [isSame, List.length_append, List.length_singleton] at longer
      omega
    · rw [success] at represents
      have after := represents _ rfl
      have held := after.held call.indices.year call.indices.month
      have appended := pushed.monthList_self
      dsimp only at held appended
      rw [appended, addedIn_append_self, List.map_append, List.map_append,
        ← valid.held call.indices.year call.indices.month] at held
      have sameEntry := List.head_eq_of_cons_eq (List.append_cancel_left held)
      have sameAddresses := congrArg Prod.snd sameEntry
      refine ⟨(pushed.rangeExact_iff valid.range).mp after.range,
        fun isRefused => absurd isRefused refused, fun _ => ⟨cursorTaken, ?_⟩⟩
      exact (call.held_entryOf_iff coinCommunityIndex).mp sameAddresses

/-- In exactly the runs whose calls are shown rightly, the index represents what was added after
every call. -/
theorem represents_iff_shownRight (calls : List AddCall) :
    (∀ first call rest reached, calls = first ++ call :: rest →
      runEvents step (first ++ [call]) new = some reached → reached.Represents) ↔
      StepsMeet step (fun filling call => call.ShownRight filling.index) calls new := by
  apply reached_good_iff_stepsMeet _ _ valid_new
  · intro filling call next valid right taken
    exact valid.step right taken
  · intro filling call valid represents
    exact valid.shownRight represents

end Filling

section Example

/-- Adding a transaction of 2024 that is not written yet. -/
def exampleCall (transactionNr : UInt64) (month : UInt8) (count : Nat) : AddCall :=
  .addIndicesForTransactionEntry (fun _ => .ok 0) {
    transactionNr := transactionNr
    month := month
    year := 2024
    transactionType := 1
    coinCommunityId := ""
    serializedTransaction := []
    addressIndices := List.replicate count 7
    fileCursor := -10 }

set_option maxRecDepth 4000 in
/-- Transaction 2 of June has 300 address indices: its list is empty behind the exception. -/
theorem not_represents_emptyMonth :
    ¬ ∀ first call rest reached, [exampleCall 1 5 2, exampleCall 2 6 300] = first ++ call :: rest →
      runEvents Filling.step (first ++ [call]) Filling.new = some reached →
        reached.Represents := by
  intro represents
  have run : (runEvents Filling.step [exampleCall 1 5 2, exampleCall 2 6 300] Filling.new).map
      (fun filling => filling.index.findMonth 2024 6) = some (some []) := by rfl
  obtain ⟨reached, isReached, june⟩ := Option.map_eq_some_iff.mp run
  have right := represents [exampleCall 1 5 2] (exampleCall 2 6 300) [] reached rfl isReached
  exact right.nonempty 2024 6 [] june rfl

end Example

end BlockIndex

end Cache

end GradidoNode
