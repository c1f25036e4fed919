import GradidoNode.Blockchain.FindAll
import Mathlib.Data.List.Pairwise

/-!
# Transactions by number

A transaction is looked for in the last block whose range has its number. Where the range of
each block is that of the transactions it stores, this is the block that stores it.
-/

namespace GradidoNode

open Library Cache

namespace Blockchain

namespace FileBased

variable {Entry : Type}

/-- The blocks are searched from the last one to the first; none stands for a null pointer. -/
def getTransactionForId (transactionId : UInt64) (blocks : List (StoredBlock Entry)) :
    Except Exception (Option Entry) :=
  match blocks.reverse.find? fun block => block.index.hasTransactionNr transactionId with
  | some block => (block.getTransaction transactionId).map some
  | none => .ok none

/-- The numbers of the transactions that the blocks store. -/
def numbersOf (blocks : List (StoredBlock Entry)) : List UInt64 :=
  blocks.flatMap fun block => block.index.allEntries.map fun entry => entry.transactionNr

/-- The range of each block is that of the transactions it stores. -/
structure RangesFilled (blocks : List (StoredBlock Entry)) : Prop where
  fromFirst : ∀ block ∈ blocks, ∃ entry ∈ block.index.allEntries,
    entry.transactionNr = block.index.minTransactionNr
  toLast : ∀ block ∈ blocks, ∃ entry ∈ block.index.allEntries,
    entry.transactionNr = block.index.maxTransactionNr

variable {transactionOf : UInt64 → Entry} {blocks : List (StoredBlock Entry)}

theorem mem_numbersOf {number : UInt64} :
    number ∈ numbersOf blocks ↔
      ∃ block ∈ blocks, ∃ indexed ∈ block.index.allEntries, indexed.transactionNr = number := by
  simp [numbersOf]

/-- Of two blocks, one stores the lower numbers. -/
theorem ChainStored.apart (stored : ChainStored blocks transactionOf)
    {block other : StoredBlock Entry} (inBlocks : block ∈ blocks) (alsoInBlocks : other ∈ blocks)
    (differ : block ≠ other) :
    (∀ first ∈ block.index.allEntries, ∀ second ∈ other.index.allEntries,
      first.transactionNr < second.transactionNr) ∨
    (∀ first ∈ other.index.allEntries, ∀ second ∈ block.index.allEntries,
      first.transactionNr < second.transactionNr) := by
  have ordered := (List.pairwise_flatMap.mp stored.ascending).2
  refine @List.Pairwise.forall _ (fun block other : StoredBlock Entry =>
    (∀ first ∈ block.index.allEntries, ∀ second ∈ other.index.allEntries,
      first.transactionNr < second.transactionNr) ∨
    (∀ first ∈ other.index.allEntries, ∀ second ∈ block.index.allEntries,
      first.transactionNr < second.transactionNr)) blocks ⟨fun _ _ => Or.symm⟩
    (ordered.imp Or.inl) block inBlocks other alsoInBlocks differ

/-- A block whose range has the number of a stored transaction is the block that stores it. -/
theorem eq_of_hasTransactionNr (stored : ChainStored blocks transactionOf)
    (filled : RangesFilled blocks) {block other : StoredBlock Entry} (inBlocks : block ∈ blocks)
    (alsoInBlocks : other ∈ blocks) {indexed : BlockIndexEntry}
    (inIndex : indexed ∈ block.index.allEntries)
    (has : other.index.hasTransactionNr indexed.transactionNr = true) : other = block := by
  by_contra differ
  obtain ⟨atLeast, atMost⟩ := Bool.and_eq_true_iff.mp has
  obtain ⟨first, firstStored, isFirst⟩ := filled.fromFirst other alsoInBlocks
  obtain ⟨last, lastStored, isLast⟩ := filled.toLast other alsoInBlocks
  rcases stored.apart alsoInBlocks inBlocks differ with before | after
  · have below := before last lastStored indexed inIndex
    rw [isLast] at below
    exact absurd (of_decide_eq_true atMost) (not_le_of_gt below)
  · have below := after indexed inIndex first firstStored
    rw [isFirst] at below
    exact absurd (of_decide_eq_true atLeast) (not_le_of_gt below)

theorem getTransactionForId_of_mem (stored : ChainStored blocks transactionOf)
    (filled : RangesFilled blocks) {number : UInt64} (member : number ∈ numbersOf blocks) :
    getTransactionForId number blocks = .ok (some (transactionOf number)) := by
  obtain ⟨block, inBlocks, indexed, inIndex, rfl⟩ := mem_numbersOf.mp member
  have range := stored.ranged block inBlocks indexed inIndex
  have has : block.index.hasTransactionNr indexed.transactionNr = true :=
    Bool.and_eq_true_iff.mpr ⟨decide_eq_true range.1, decide_eq_true range.2⟩
  unfold getTransactionForId
  cases found : blocks.reverse.find? fun block =>
      block.index.hasTransactionNr indexed.transactionNr with
  | none =>
      exact absurd has (List.find?_eq_none.mp found block (List.mem_reverse.mpr inBlocks))
  | some other =>
      have isBlock := eq_of_hasTransactionNr stored filled inBlocks
        (List.mem_reverse.mp (List.mem_of_find?_eq_some found)) inIndex
        (@List.find?_some _ (fun block : StoredBlock Entry =>
          block.index.hasTransactionNr indexed.transactionNr) _ _ found)
      dsimp only
      rw [isBlock, stored.stored block inBlocks indexed inIndex]
      rfl

/-- Without a transaction number 1 no block has the number in its range. -/
theorem getTransactionForId_one_of_not_mem (stored : ChainStored blocks transactionOf)
    (filled : RangesFilled blocks) (absent : 1 ∉ numbersOf blocks) :
    getTransactionForId 1 blocks = .ok none := by
  have hasNot : blocks.reverse.find? (fun block => block.index.hasTransactionNr 1) = none := by
    refine List.find?_eq_none.mpr fun block member has => ?_
    have inBlocks := List.mem_reverse.mp member
    obtain ⟨first, firstStored, isFirst⟩ := filled.fromFirst block inBlocks
    have atLeast := of_decide_eq_true (Bool.and_eq_true_iff.mp has).1
    have atMost : 1 ≤ block.index.minTransactionNr :=
      UInt64.le_iff_toNat_le.mpr (UInt64.lt_iff_toNat_lt.mp (stored.positive block inBlocks))
    have isOne := isFirst.trans (le_antisymm atLeast atMost)
    exact absent (mem_numbersOf.mpr ⟨block, inBlocks, first, firstStored, isOne⟩)
  rw [getTransactionForId, hasNot]

end FileBased

end Blockchain

end GradidoNode
