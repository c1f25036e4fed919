import Mathlib.Order.Lattice
import Mathlib.Data.List.Basic

/-!
# Ascending lists read in batches

Items are listed in ascending order of their keys, a limited number behind a cursor at a time.
The key of the last item of a batch is the cursor for what the batch has left.
-/

namespace GradidoNode

namespace Library

variable {Item Key : Type*} [LinearOrder Key] (key : Item → Key)

/-- The items behind a cursor. -/
def laterThan (cursor : Key) (items : List Item) : List Item :=
  items.filter fun item => cursor < key item

variable {key} {items : List Item}

theorem mem_laterThan {cursor : Key} {item : Item} :
    item ∈ laterThan key cursor items ↔ item ∈ items ∧ cursor < key item := by
  unfold laterThan
  rw [List.mem_filter, decide_eq_true_iff]

/-- What lies behind a later cursor lies behind an earlier one. -/
theorem laterThan_laterThan {first second : Key} (ordered : first ≤ second) :
    laterThan key second (laterThan key first items) = laterThan key second items := by
  unfold laterThan
  rw [List.filter_filter]
  apply List.filter_congr
  intro item _
  by_cases later : second < key item
  · simp only [later, lt_of_le_of_lt ordered later, decide_true, Bool.and_self]
  · simp only [later, decide_false, Bool.false_and]

/-- Behind the last item of a batch lies what the batch has left. -/
theorem laterThan_getLast
    (ascending : items.Pairwise fun first second => key first < key second) {cursor : Key}
    {limit : Nat} {last : Item}
    (isLast : ((laterThan key cursor items).take limit).getLast? = some last) :
    laterThan key (key last) items = (laterThan key cursor items).drop limit := by
  obtain ⟨earlier, batch⟩ := List.getLast?_eq_some_iff.mp isLast
  have parts : laterThan key cursor items =
      earlier ++ [last] ++ (laterThan key cursor items).drop limit := by
    rw [← batch]
    exact (List.take_append_drop _ _).symm
  have behind : cursor < key last := by
    apply (Iff.mp mem_laterThan (_ : last ∈ laterThan key cursor items)).2
    rw [parts]
    exact List.mem_append_left _ (List.mem_append_right _ (List.mem_singleton_self last))
  have sorted : (laterThan key cursor items).Pairwise fun first second => key first < key second :=
    ascending.sublist List.filter_sublist
  rw [parts] at sorted
  obtain ⟨sortedBatch, -, before⟩ := List.pairwise_append.mp sorted
  have notBehind : laterThan key (key last) (earlier ++ [last]) = [] := by
    apply List.filter_eq_nil_iff.mpr
    intro item member
    rw [decide_eq_true_iff]
    rcases List.mem_append.mp member with isEarlier | isLast
    · have ordered := (List.pairwise_append.mp sortedBatch).2.2 item isEarlier last
        (List.mem_singleton_self last)
      exact not_lt.mpr (le_of_lt ordered)
    · rw [List.mem_singleton.mp isLast]
      exact lt_irrefl _
  have allBehind : laterThan key (key last) ((laterThan key cursor items).drop limit) =
      (laterThan key cursor items).drop limit := by
    apply List.filter_eq_self.mpr
    intro item member
    rw [decide_eq_true_iff]
    exact before last (List.mem_append_right _ (List.mem_singleton_self last)) item member
  rw [← laterThan_laterThan (le_of_lt behind), parts, laterThan, List.filter_append]
  rw [← parts]
  exact (congrArg₂ _ notBehind allBehind).trans (List.nil_append _)

end Library

end GradidoNode
