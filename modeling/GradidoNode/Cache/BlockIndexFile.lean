import GradidoNode.Cache.BlockIndex
import GradidoNode.Files.BlockIndexWalk

/-!
# The block index and its file

Loading, saving and destroying the index together with the file it belongs to. A
rejected file keeps what it delivered before the rejection in the index, and the
destructor writes that back.
-/

namespace GradidoNode

open Library

namespace Cache

/-- The index in memory and the content of its file, `none` while there is no file. -/
structure StoredIndex where
  index : BlockIndex
  disk : Option (List UInt8)
  deriving DecidableEq

namespace StoredIndex

/-- What reading the file yields; a missing file is created empty. -/
def content (stored : StoredIndex) : List UInt8 := stored.disk.getD []

/-- The constructor of `model::files::BlockIndex` creates the file if it does not exist. -/
def openFile (stored : StoredIndex) : StoredIndex := { stored with disk := some stored.content }

section

variable (genericHash : List UInt8 → Digest) (enumContains : UInt8 → Bool)

def loadFromFile (uninitialised : Digest) : Throwing StoredIndex Bool := fun stored =>
  let stored := stored.openFile
  let read := Files.readFromFile genericHash enumContains uninitialised
    BlockIndex.addIndicesForTransaction stored.content stored.index
  (read.1, { stored with index := read.2 })

def writeIntoFile : Throwing StoredIndex Bool := fun stored =>
  match stored.index.serialize with
  | .error exception => (.error exception, stored.openFile)
  | .ok none => (.ok false, stored)
  | .ok (some blocks) =>
      (.ok true, { stored with disk := some (Files.fileContent genericHash blocks) })

/-- `exit`, which the destructor calls. An exception that leaves it there
terminates the program; the file then stays as it is. -/
def exit : Throwing StoredIndex Unit := fun stored =>
  match writeIntoFile genericHash stored with
  | (.error exception, stored) => (.error exception, stored)
  | (.ok _, stored) =>
      (.ok (), { stored with index := { BlockIndex.new with dirty := stored.index.dirty } })

/-- `reset` clears the index and removes the file. -/
def reset (stored : StoredIndex) : StoredIndex where
  index := { BlockIndex.new with dirty := stored.index.dirty }
  disk := none

end

end StoredIndex

namespace BlockIndex

/-- The same entries, file cursors and range of transaction numbers. -/
structure SameContents (first second : BlockIndex) : Prop where
  entries : first.yearMonthAddressIndexEntries = second.yearMonthAddressIndexEntries
  fileCursors : first.transactionNrsFileCursors = second.transactionNrsFileCursors
  maxTransactionNr : first.maxTransactionNr = second.maxTransactionNr
  minTransactionNr : first.minTransactionNr = second.minTransactionNr

theorem SameContents.refl (index : BlockIndex) : SameContents index index := ⟨rfl, rfl, rfl, rfl⟩

theorem alterMonth_entries_ne_empty (index : BlockIndex) (year : Int16) (month : UInt8)
    (change : List BlockIndexEntry → List BlockIndexEntry) :
    (index.alterMonth year month change).yearMonthAddressIndexEntries ≠ ∅ :=
  OrderedMap.alter_ne_empty _ _ _

/-- Whether it throws or not, adding indices leaves at least the year in the index. -/
theorem addIndicesForTransaction_entries_ne_empty (indices : TransactionIndices)
    (index : BlockIndex) :
    (addIndicesForTransaction indices index).2.yearMonthAddressIndexEntries ≠ ∅ := by
  have pushed (entry : BlockIndexEntry) (index : BlockIndex) :
      (addIndicesForTransaction.pushEntry indices entry index).2.yearMonthAddressIndexEntries
        ≠ ∅ := by
    have filled := alterMonth_entries_ne_empty index indices.year indices.month (· ++ [entry])
    have kept := (addFileCursorForTransaction_frame indices.transactionNr indices.fileCursor
      (index.alterMonth indices.year indices.month (· ++ [entry]))).1
    rw [← kept] at filled
    unfold addIndicesForTransaction.pushEntry
    dsimp only
    split <;> rename_i recorded <;> rw [recorded] at filled <;> exact filled
  unfold addIndicesForTransaction
  dsimp only
  split
  · exact alterMonth_entries_ne_empty _ _ _ _
  · split
    · split
      · exact alterMonth_entries_ne_empty _ _ _ _
      · exact pushed _ _
    · exact pushed _ _

theorem deliver_entries_ne_empty {delivered : List TransactionIndices} (some : delivered ≠ [])
    (index : BlockIndex) :
    (Files.deliver addIndicesForTransaction delivered index).2.yearMonthAddressIndexEntries
      ≠ ∅ := by
  induction delivered generalizing index with
  | nil => exact absurd rfl some
  | cons indices rest ih =>
      have filled := addIndicesForTransaction_entries_ne_empty indices index
      unfold Files.deliver
      cases given : addIndicesForTransaction indices index with
      | mk outcome next =>
          rw [given] at filled
          cases outcome with
          | error exception => exact filled
          | ok _ =>
              cases rest with
              | nil => exact filled
              | cons _ _ => exact ih (List.cons_ne_nil _ _) next

/-- Deliveries bring in entries of the delivered transactions alone. -/
theorem transactionNr_of_mem_deliver {delivered : List TransactionIndices} {index : BlockIndex}
    {entry : BlockIndexEntry}
    (member : entry ∈ (Files.deliver addIndicesForTransaction delivered index).2.allEntries) :
    entry ∈ index.allEntries ∨
      ∃ indices ∈ delivered, entry.transactionNr = indices.transactionNr := by
  induction delivered generalizing index with
  | nil => exact Or.inl member
  | cons indices rest ih =>
      have grows := grows_addIndicesForTransaction indices index
      have first {next : BlockIndex} (grown : Grows indices.transactionNr index next)
          (member : entry ∈ next.allEntries) : entry ∈ index.allEntries ∨
            ∃ other ∈ indices :: rest, entry.transactionNr = other.transactionNr :=
        (grown.entries entry member).imp_right fun same =>
          ⟨indices, List.mem_cons_self .., same⟩
      unfold Files.deliver at member
      cases given : addIndicesForTransaction indices index with
      | mk outcome next =>
          rw [given] at member grows
          cases outcome with
          | error exception => exact first grows member
          | ok _ =>
              rcases ih member with old | ⟨other, isLater, same⟩
              · exact first grows old
              · exact Or.inr ⟨other, List.mem_cons_of_mem _ isLater, same⟩

end BlockIndex

namespace StoredIndex

variable (genericHash : List UInt8 → Digest) (enumContains : UInt8 → Bool)

theorem entriesOf_nil : Files.entriesOf enumContains [] = [] := rfl

/-- Reading changes the index by the deliveries alone. -/
theorem loadFromFile_index (uninitialised : Digest) (stored : StoredIndex) :
    (loadFromFile genericHash enumContains uninitialised stored).2.index =
      (Files.deliver BlockIndex.addIndicesForTransaction
        (Files.entriesOf enumContains stored.content) stored.index).2 := by
  by_cases empty : stored.content = []
  · simp only [loadFromFile, openFile, content, Option.getD_some] at empty ⊢
    rw [empty, entriesOf_nil]
    rfl
  · have read := Files.readFromFile_eq_deliver genericHash enumContains
      BlockIndex.addIndicesForTransaction uninitialised empty stored.index
    have loaded : (loadFromFile genericHash enumContains uninitialised stored).2.index =
        (Files.readFromFile genericHash enumContains uninitialised
          BlockIndex.addIndicesForTransaction stored.content stored.index).2 := rfl
    rw [loaded, read, ← Files.entriesOf]
    cases Files.deliver BlockIndex.addIndicesForTransaction
        (Files.entriesOf enumContains stored.content) stored.index with
    | mk outcome receiver =>
        cases outcome with
        | error exception => rfl
        | ok _ =>
            dsimp only
            split
            · rfl
            · split <;> rfl
            · split <;> rfl

/-- Only an empty file lets `loadFromFile` return false. -/
theorem loadFromFile_ne_false (uninitialised : Digest) {stored : StoredIndex}
    (nonempty : stored.content ≠ []) :
    (loadFromFile genericHash enumContains uninitialised stored).1 ≠ .ok false := by
  have read := Files.readFromFile_eq_deliver genericHash enumContains
    BlockIndex.addIndicesForTransaction uninitialised nonempty stored.index
  have loaded : (loadFromFile genericHash enumContains uninitialised stored).1 =
      (Files.readFromFile genericHash enumContains uninitialised
        BlockIndex.addIndicesForTransaction stored.content stored.index).1 := rfl
  rw [loaded, read]
  cases Files.deliver BlockIndex.addIndicesForTransaction
      (Files.deliveries 0 0 (Files.walkFile enumContains stored.content).1) stored.index with
  | mk outcome receiver =>
      cases outcome with
      | error exception =>
          intro isFalse
          cases isFalse
      | ok _ =>
          dsimp only
          intro isFalse
          split at isFalse
          · cases isFalse
          · split at isFalse <;> cases isFalse
          · split at isFalse <;> cases isFalse

/-- A file that loads has the hash of its blocks. -/
theorem hash_of_loadFromFile_true {uninitialised : Digest} {stored : StoredIndex}
    (nonempty : stored.content ≠ [])
    (success : (loadFromFile genericHash enumContains uninitialised stored).1 = .ok true) :
    let walked := Files.walkFile enumContains stored.content
    let calculated := genericHash (walked.1.flatMap Files.IndexBlock.hashed)
    match walked.2 with
    | .rejected _ => False
    | .hashBlock hash => hash = calculated
    | .noHash => uninitialised = calculated := by
  have read := Files.readFromFile_eq_deliver genericHash enumContains
    BlockIndex.addIndicesForTransaction uninitialised nonempty stored.index
  have loaded : (loadFromFile genericHash enumContains uninitialised stored).1 =
      (Files.readFromFile genericHash enumContains uninitialised
        BlockIndex.addIndicesForTransaction stored.content stored.index).1 := rfl
  rw [loaded, read] at success
  dsimp only
  cases given : Files.deliver BlockIndex.addIndicesForTransaction
      (Files.deliveries 0 0 (Files.walkFile enumContains stored.content).1) stored.index with
  | mk outcome receiver =>
      rw [given] at success
      cases outcome with
      | error exception => cases success
      | ok _ =>
          dsimp only at success
          cases ending : (Files.walkFile enumContains stored.content).2 with
          | rejected exception =>
              rw [ending] at success
              cases success
          | hashBlock hash =>
              rw [ending] at success
              by_contra differ
              simp only [if_neg differ] at success
              cases success
          | noHash =>
              rw [ending] at success
              by_contra differ
              simp only [if_neg differ] at success
              cases success

/-- Where reading does not return true, the index is as before, and an index file with
a valid hash that its destruction leaves on disk has no entry of the rejected file. -/
def RejectsCleanly (uninitialised : Digest) (stored : StoredIndex) : Prop :=
  let read := loadFromFile genericHash enumContains uninitialised stored
  read.1 ≠ .ok true →
    BlockIndex.SameContents read.2.index stored.index ∧
      ∀ file, (exit genericHash read.2).2.disk = some file →
        Files.HasValidHash genericHash enumContains file →
          ∀ entry ∈ Files.entriesOf enumContains file,
            entry ∉ Files.entriesOf enumContains stored.content

/-- `loadFromFile` asserts an empty receiver. Then a rejected file leaves nothing behind
exactly when reading stopped before it had delivered a single data block. -/
theorem rejectsCleanly_iff {uninitialised : Digest} {stored : StoredIndex}
    (asserted : stored.index.yearMonthAddressIndexEntries = ∅ ∧
      stored.index.transactionNrsFileCursors = ∅)
    (rejected : (loadFromFile genericHash enumContains uninitialised stored).1 ≠ .ok true) :
    RejectsCleanly genericHash enumContains uninitialised stored ↔
      Files.entriesOf enumContains stored.content = [] := by
  constructor
  · intro clean
    by_contra delivered
    have filled := BlockIndex.deliver_entries_ne_empty delivered stored.index
    rw [← loadFromFile_index genericHash enumContains uninitialised stored] at filled
    exact filled ((clean rejected).1.entries.trans asserted.1)
  · intro none _
    refine ⟨?_, fun file _ _ entry _ => ?_⟩
    · rw [loadFromFile_index, none]
      exact BlockIndex.SameContents.refl stored.index
    · rw [none]
      exact List.not_mem_nil

/-- The file of one year block that ends within its year. -/
def endsWithinYear : StoredIndex := ⟨BlockIndex.new, some [0xad, 0xe8]⟩

/-- An index file that ends within a year's block: the bytes read of it are rejected cleanly. -/
theorem rejectsCleanly_iff_endsWithinYear :
    RejectsCleanly (fun _ => ⟨List.replicate 32 0, rfl⟩) (fun _ => true)
        ⟨List.replicate 32 0, rfl⟩ endsWithinYear ↔
      Files.entriesOf (fun _ => true) endsWithinYear.content = [] :=
  rejectsCleanly_iff _ _ ⟨rfl, rfl⟩ (by decide)

/-- A file cut off behind its first data block, at the type of the second. -/
def cutOff : StoredIndex where
  index := BlockIndex.new
  disk := some ([0xad, 0xe8, 0x07] ++ [0x50, 5] ++
    [0xdd, 1, 0, 0, 0, 0, 0, 0, 0, 0, 0, 0, 0, 1, 0, 0, 0, 0, 0] ++ [0xdd])

/-- `crypto_generichash` of the year, the month and the data block of `cutOff`. -/
def cutOffHash : Digest :=
  ⟨[231, 167, 228, 208, 211, 195, 71, 73, 118, 104, 242, 228, 203, 82, 167, 87,
    196, 40, 34, 64, 64, 0, 37, 27, 232, 59, 4, 232, 102, 1, 159, 50], rfl⟩

/-- Reading `cutOff` throws with its first transaction already in the index, and the
destructor turns the rejected file into a valid one with that transaction. -/
theorem not_rejectsCleanly_cutOff :
    ¬ RejectsCleanly (fun _ => cutOffHash) (fun type => type ≤ 8) ⟨List.replicate 32 0, rfl⟩
        cutOff ∧
      ∃ file, (exit (fun _ => cutOffHash) (loadFromFile (fun _ => cutOffHash)
          (fun type => type ≤ 8) ⟨List.replicate 32 0, rfl⟩ cutOff).2).2.disk = some file ∧
        Files.HasValidHash (fun _ => cutOffHash) (fun type => type ≤ 8) file ∧
        ∃ entry ∈ Files.entriesOf (fun type => type ≤ 8) file,
          entry ∈ Files.entriesOf (fun type => type ≤ 8) cutOff.content := by
  refine ⟨fun clean => ?_, _, rfl, by decide, by decide⟩
  have unchanged := (clean (by decide)).1.maxTransactionNr
  exact absurd unchanged (by decide)

end StoredIndex

end Cache

end GradidoNode
