import GradidoNode.Files.BlockIndex

/-!
# Block files

The file `blkNNNNNNNN.dat`: serialized transactions, each behind its two-byte
size, and a chained hash over them at the end. Appending overwrites the old hash.
-/

namespace GradidoNode

open Library

/-- `memset` of a hash array. -/
def Digest.zero : Digest := ⟨List.replicate 32 0, rfl⟩

/-- A hash array after a read into it; a short read leaves its end as it was. -/
def Digest.readInto (array : Digest) (bytes : List UInt8) : Digest :=
  ⟨(bytes ++ array.1.drop bytes.length).take 32, by
    rw [List.length_take, List.length_append, List.length_drop, array.2]
    omega⟩

@[simp] theorem Digest.readInto_self (array digest : Digest) : array.readInto digest.1 = digest := by
  apply Subtype.ext
  change (digest.1 ++ array.1.drop digest.1.length).take 32 = digest.1
  exact List.take_left' digest.2

/-- A digest has 32 bytes. -/
theorem Digest.length (digest : Digest) : digest.1.length = 32 := digest.2

namespace Files

/-- The content of the file and the member `mCurrentFileSize`, which leaves the hash out. -/
structure Block where
  disk : List UInt8
  currentFileSize : UInt32
  deriving DecidableEq

namespace Block

/-- The constructor opens the file and takes its size without the hash. -/
def new (disk : List UInt8) : Block where
  disk := disk
  currentFileSize := if disk.length > 32 then UInt32.ofNat disk.length - 32 else 0

/-- `MAGIC_NUMBER_MINIMAL_TRANSACTION_SIZE` and the size field in front. -/
def minimalFileSize : Nat := 2 + 25

section

variable (genericHash : List UInt8 → Digest)

def calculateOneHashStep (hash : Digest) (data : List UInt8) : Digest :=
  genericHash (hash.1 ++ data)

/-- The locals of `appendLines`. -/
structure AppendState where
  /-- The position `tellp` of the file stream. -/
  position : Nat
  written : List UInt8
  currentFileSize : UInt32
  hash : Digest
  resultingCursorPositions : List UInt32

/-- One round of `appendLines`. The size of a line is cut to two bytes, which the
source asserts to be enough. -/
def appendLine (state : AppendState) (line : List UInt8) : AppendState :=
  let size := UInt16.ofNat line.length
  let data := line.take size.toNat
  { position := state.position + 2 + data.length
    written := state.written ++ (LittleEndian.encode size ++ data)
    currentFileSize := state.currentFileSize + UInt32.ofNat (2 + size.toNat)
    hash := calculateOneHashStep genericHash state.hash data
    resultingCursorPositions :=
      state.resultingCursorPositions ++ [UInt32.ofNat state.position] }

/-- The locals of `appendLines` in front of its loop; the position is the one that is sought. -/
def AppendState.start (file : Block) : AppendState where
  position := file.currentFileSize.toNat
  written := []
  currentFileSize := file.currentFileSize
  hash :=
    if file.currentFileSize > 0 then
      Digest.zero.readInto ((file.disk.drop file.currentFileSize.toNat).take 32)
    else Digest.zero
  resultingCursorPositions := []

/-- Write bytes over a file from a position on. -/
def overwrite (disk : List UInt8) (position : Nat) (bytes : List UInt8) : List UInt8 :=
  disk.take position ++ bytes ++ disk.drop (position + bytes.length)

/-- `Block::appendLines` while the file lock is held: the positions and the new file. -/
def appendLines (lines : List (List UInt8)) (file : Block) : List UInt32 × Block :=
  let final := lines.foldl (appendLine genericHash) (.start file)
  (final.resultingCursorPositions,
    { disk := overwrite file.disk file.currentFileSize.toNat (final.written ++ final.hash.1)
      currentFileSize := final.currentFileSize })

end

/-- `Block::readLine`: the line behind the two-byte size at a position. -/
def readLine (file : Block) (path : String) (startReading : UInt32) :
    Except Exception (List UInt8) :=
  if file.currentFileSize.toNat ≤ minimalFileSize then
    .error (.endReaching "file is smaller than minimal block size" path 0 minimalFileSize)
  else if startReading.toNat > file.currentFileSize.toNat - minimalFileSize then
    .error (.endReaching "file is to small for read request" path startReading.toNat
      minimalFileSize)
  else
    let transactionSize : UInt16 :=
      LittleEndian.decode ((file.disk.drop startReading.toNat).take 2)
    if startReading + transactionSize.toUInt32 > file.currentFileSize then
      .error (.endReaching "file is to small for transaction size" path startReading.toNat
        transactionSize.toNat)
    else if transactionSize.toNat < minimalFileSize then
      .error (.invalidReadBlockSize "transactionSize is to small to contain a transaction" path
        startReading.toNat transactionSize.toNat)
    else
      .ok ((file.disk.drop (startReading.toNat + 2)).take transactionSize.toNat)

end Block

/-- Lines as they are stored, each behind its size. -/
def encodeLines (lines : List (List UInt8)) : List UInt8 :=
  lines.flatMap fun line => LittleEndian.encode (UInt16.ofNat line.length) ++ line

/-- The hash chained over lines, started from zeros. -/
def chainedHash (genericHash : List UInt8 → Digest) (lines : List (List UInt8)) : Digest :=
  lines.foldl (Block.calculateOneHashStep genericHash) Digest.zero

/-- The positions at which lines are stored when the first is stored at `start`. -/
def positionsFrom : Nat → List (List UInt8) → List Nat
  | _, [] => []
  | start, line :: rest => start :: positionsFrom (start + 2 + line.length) rest

/-- The content of a block file that stores `lines`. -/
def blockContent (genericHash : List UInt8 → Digest) (lines : List (List UInt8)) : List UInt8 :=
  if lines = [] then [] else encodeLines lines ++ (chainedHash genericHash lines).1

/-- The file stores exactly these lines, in this order, under the right hash. -/
structure Block.Holds (genericHash : List UInt8 → Digest) (file : Block)
    (lines : List (List UInt8)) : Prop where
  disk : file.disk = blockContent genericHash lines
  size : file.currentFileSize.toNat = (encodeLines lines).length

/-- The lines of two batches, one behind the other. -/
theorem encodeLines_append (first second : List (List UInt8)) :
    encodeLines (first ++ second) = encodeLines first ++ encodeLines second :=
  List.flatMap_append

/-- The first line with its size, then the rest. -/
theorem encodeLines_cons (line : List UInt8) (rest : List (List UInt8)) :
    encodeLines (line :: rest) =
      LittleEndian.encode (UInt16.ofNat line.length) ++ line ++ encodeLines rest :=
  List.flatMap_cons

/-- A line takes two bytes for its size and its own bytes. -/
theorem length_encodeLines_cons (line : List UInt8) (rest : List (List UInt8)) :
    (encodeLines (line :: rest)).length = 2 + line.length + (encodeLines rest).length := by
  rw [encodeLines_cons, List.length_append, List.length_append, LittleEndian.length_encode]
  rfl

/-- Every line has a position. -/
theorem length_positionsFrom (start : Nat) (lines : List (List UInt8)) :
    (positionsFrom start lines).length = lines.length := by
  induction lines generalizing start with
  | nil => rfl
  | cons line rest ih => simp [positionsFrom, ih]

/-- Every line starts inside the bytes that are written. -/
theorem lt_of_mem_positionsFrom {start position : Nat} {lines : List (List UInt8)}
    (member : position ∈ positionsFrom start lines) :
    start ≤ position ∧ position < start + (encodeLines lines).length := by
  induction lines generalizing start with
  | nil => cases member
  | cons line rest ih =>
      rw [length_encodeLines_cons]
      rcases List.mem_cons.mp member with rfl | later
      · omega
      · have bounds := ih later
        omega

/-- Only the first line of a file starts at position 0. -/
theorem positionsFrom_tail_pos {start position : Nat} {line : List UInt8}
    {rest : List (List UInt8)} (member : position ∈ positionsFrom (start + 2 + line.length) rest) :
    0 < position := by
  have bounds := lt_of_mem_positionsFrom member
  omega

section

variable (genericHash : List UInt8 → Digest)

/-- The hash goes on from the lines before. -/
theorem chainedHash_append (first second : List (List UInt8)) :
    chainedHash genericHash (first ++ second) =
      second.foldl (Block.calculateOneHashStep genericHash) (chainedHash genericHash first) :=
  List.foldl_append

/-- A line that fits into its size field is written as it is. -/
theorem Block.appendLine_of_short (state : Block.AppendState) {line : List UInt8}
    (short : line.length < 2 ^ 16) :
    Block.appendLine genericHash state line = {
      position := state.position + 2 + line.length
      written := state.written ++
        (LittleEndian.encode (UInt16.ofNat line.length) ++ line)
      currentFileSize := state.currentFileSize + UInt32.ofNat (2 + line.length)
      hash := Block.calculateOneHashStep genericHash state.hash line
      resultingCursorPositions :=
        state.resultingCursorPositions ++ [UInt32.ofNat state.position] } := by
  have size : (UInt16.ofNat line.length).toNat = line.length := Nat.mod_eq_of_lt short
  simp only [Block.appendLine, size, List.take_length]

/-- What the loop of `appendLines` has written and found when it ends. -/
theorem Block.foldl_appendLine {lines : List (List UInt8)} (state : Block.AppendState)
    (short : ∀ line ∈ lines, line.length < 2 ^ 16) :
    let final := lines.foldl (Block.appendLine genericHash) state
    final.written = state.written ++ encodeLines lines ∧
      final.hash = lines.foldl (Block.calculateOneHashStep genericHash) state.hash ∧
      final.resultingCursorPositions = state.resultingCursorPositions ++
        (positionsFrom state.position lines).map UInt32.ofNat := by
  induction lines generalizing state with
  | nil => simp [encodeLines, positionsFrom]
  | cons line rest ih =>
      have stepped := Block.appendLine_of_short genericHash state (short line (List.mem_cons_self ..))
      simp only [List.foldl_cons, stepped]
      obtain ⟨written, hash, cursors⟩ := ih
        ({
          position := state.position + 2 + line.length
          written := state.written ++
            (LittleEndian.encode (UInt16.ofNat line.length) ++ line)
          currentFileSize := state.currentFileSize + UInt32.ofNat (2 + line.length)
          hash := Block.calculateOneHashStep genericHash state.hash line
          resultingCursorPositions :=
            state.resultingCursorPositions ++ [UInt32.ofNat state.position] })
        (fun other member => short other (List.mem_cons_of_mem _ member))
      refine ⟨?_, hash, ?_⟩
      · rw [written, encodeLines_cons]
        simp only [List.append_assoc]
      · rw [cursors]
        simp only [positionsFrom, List.map_cons, List.append_assoc, List.singleton_append]

/-- The size the loop of `appendLines` has counted, while it fits into its 32 bits. -/
theorem Block.foldl_appendLine_size {lines : List (List UInt8)} (state : Block.AppendState)
    (short : ∀ line ∈ lines, line.length < 2 ^ 16)
    (fits : state.currentFileSize.toNat + (encodeLines lines).length < 2 ^ 32) :
    (lines.foldl (Block.appendLine genericHash) state).currentFileSize.toNat =
      state.currentFileSize.toNat + (encodeLines lines).length := by
  induction lines generalizing state with
  | nil => rfl
  | cons line rest ih =>
      rw [length_encodeLines_cons] at fits ⊢
      have added : (state.currentFileSize + UInt32.ofNat (2 + line.length)).toNat =
          state.currentFileSize.toNat + (2 + line.length) := by
        rw [UInt32.toNat_add, UInt32.toNat_ofNat',
          Nat.mod_eq_of_lt (by omega : 2 + line.length < 2 ^ 32)]
        exact Nat.mod_eq_of_lt (by omega)
      have stepped := Block.appendLine_of_short genericHash state (short line (List.mem_cons_self ..))
      rw [List.foldl_cons, ih _ (fun other member => short other (List.mem_cons_of_mem _ member))]
      · simp only [stepped, added]
        omega
      · simp only [stepped, added]
        omega

/-- The positions `appendLines` returns, whatever the file holds. -/
theorem Block.appendLines_positions {file : Block} {lines : List (List UInt8)}
    (short : ∀ line ∈ lines, line.length < 2 ^ 16) :
    (Block.appendLines genericHash lines file).1 =
      (positionsFrom file.currentFileSize.toNat lines).map UInt32.ofNat :=
  (Block.foldl_appendLine genericHash (.start file) short).2.2

/-- The size counted is that of the lines, while it fits into 32 bits. -/
theorem Block.appendLines_size {file : Block} {lines : List (List UInt8)}
    (short : ∀ line ∈ lines, line.length < 2 ^ 16)
    (fits : file.currentFileSize.toNat + (encodeLines lines).length < 2 ^ 32) :
    (Block.appendLines genericHash lines file).2.currentFileSize.toNat =
      file.currentFileSize.toNat + (encodeLines lines).length :=
  Block.foldl_appendLine_size genericHash (.start file) short fits

/-- The file ends behind the lines and their hash, or later. -/
theorem Block.appendLines_disk {file : Block} {lines : List (List UInt8)}
    (short : ∀ line ∈ lines, line.length < 2 ^ 16)
    (inside : file.currentFileSize.toNat ≤ file.disk.length) :
    file.currentFileSize.toNat + (encodeLines lines).length + 32 ≤
      (Block.appendLines genericHash lines file).2.disk.length := by
  have written : (lines.foldl (Block.appendLine genericHash) (.start file)).written =
      encodeLines lines := (Block.foldl_appendLine genericHash (.start file) short).1
  simp only [Block.appendLines, Block.overwrite, written, List.length_append, List.length_take,
    Nat.min_eq_left inside, Digest.length]
  omega

/-- The bytes of a line that are stored behind its two-byte size. -/
def storedLine (line : List UInt8) : List UInt8 := line.take (UInt16.ofNat line.length).toNat

/-- A stored line has the size that 16 bits hold of its length. -/
theorem length_storedLine (line : List UInt8) :
    (storedLine line).length = (UInt16.ofNat line.length).toNat := by
  rw [storedLine, List.length_take, UInt16.toNat_ofNat']
  exact Nat.min_eq_left (Nat.mod_le _ _)

/-- A stored line is shorter than 2 ^ 16 bytes. -/
theorem length_storedLine_lt (line : List UInt8) : (storedLine line).length < 2 ^ 16 := by
  rw [length_storedLine]
  exact (UInt16.ofNat line.length).toNat_lt

/-- Appending lines is appending what is stored of them. -/
theorem Block.appendLines_map_storedLine (file : Block) (lines : List (List UInt8)) :
    Block.appendLines genericHash (lines.map storedLine) file =
      Block.appendLines genericHash lines file := by
  have stepped (state : Block.AppendState) (line : List UInt8) :
      Block.appendLine genericHash state (storedLine line) =
        Block.appendLine genericHash state line := by
    have size : UInt16.ofNat (storedLine line).length = UInt16.ofNat line.length := by
      rw [length_storedLine, UInt16.ofNat_toNat]
    have whole : (storedLine line).take (UInt16.ofNat line.length).toNat = storedLine line :=
      List.take_of_length_le (Nat.le_of_eq (length_storedLine line))
    simp only [Block.appendLine, size, whole]
    rfl
  simp only [Block.appendLines, List.foldl_map, stepped]

/-- A block file begins with its lines. -/
theorem take_blockContent (lines : List (List UInt8)) :
    (blockContent genericHash lines).take (encodeLines lines).length = encodeLines lines := by
  unfold blockContent
  split
  · rename_i none
    rw [none]
    rfl
  · exact List.take_left

/-- Behind the lines stands at most the hash. -/
theorem length_blockContent_le (lines : List (List UInt8)) :
    (blockContent genericHash lines).length ≤ (encodeLines lines).length + 32 := by
  unfold blockContent
  split
  · exact Nat.zero_le _
  · rw [List.length_append, (chainedHash genericHash lines).2]

variable {genericHash} in
/-- Appending lines to a file that holds `stored` leaves a file that holds both, and
returns where the new lines start. -/
theorem Block.appendLines_holds {file : Block} {stored lines : List (List UInt8)}
    (holds : file.Holds genericHash stored) (some : lines ≠ [])
    (short : ∀ line ∈ lines, line.length < 2 ^ 16)
    (fits : (encodeLines (stored ++ lines)).length < 2 ^ 32) :
    (Block.appendLines genericHash lines file).2.Holds genericHash (stored ++ lines) ∧
      (Block.appendLines genericHash lines file).1 =
        (positionsFrom (encodeLines stored).length lines).map UInt32.ofNat := by
  rw [encodeLines_append, List.length_append] at fits
  have startHash : (if file.currentFileSize > 0 then
      Digest.zero.readInto ((file.disk.drop file.currentFileSize.toNat).take 32)
      else Digest.zero) = chainedHash genericHash stored := by
    rw [holds.disk, holds.size]
    cases stored with
    | nil =>
        have zero : ¬ file.currentFileSize > 0 := by
          have size := holds.size
          simp only [encodeLines, List.flatMap_nil, List.length_nil] at size
          simp [UInt32.lt_iff_toNat_lt, size]
        rw [if_neg zero]
        rfl
    | cons line rest =>
        have positive : file.currentFileSize > 0 := by
          have size := holds.size
          rw [length_encodeLines_cons] at size
          simp only [gt_iff_lt, UInt32.lt_iff_toNat_lt, size]
          exact Nat.lt_of_lt_of_le Nat.zero_lt_two (by omega)
        rw [if_pos positive, blockContent, if_neg (List.cons_ne_nil _ _), List.drop_left]
        rw [List.take_of_length_le (Nat.le_of_eq (chainedHash genericHash (line :: rest)).2)]
        exact Digest.readInto_self _ _
  have start : Block.AppendState.start file = {
      position := file.currentFileSize.toNat
      written := []
      currentFileSize := file.currentFileSize
      hash := chainedHash genericHash stored
      resultingCursorPositions := [] } := by
    simp only [Block.AppendState.start, startHash]
  obtain ⟨written, hash, cursors⟩ := Block.foldl_appendLine genericHash (.start file) short
  have size := Block.foldl_appendLine_size genericHash (.start file) short (by
    rw [← holds.size] at fits
    exact fits)
  rw [start] at written hash cursors size
  simp only [Block.appendLines, start]
  refine ⟨⟨?_, ?_⟩, ?_⟩
  · simp only [written, hash, ← chainedHash_append, List.nil_append]
    have covers : (blockContent genericHash stored).drop ((encodeLines stored).length +
        (encodeLines lines ++ (chainedHash genericHash (stored ++ lines)).1).length) = [] := by
      apply List.drop_eq_nil_of_le
      have bounded := length_blockContent_le genericHash stored
      rw [List.length_append, (chainedHash genericHash (stored ++ lines)).2]
      omega
    have nonempty : stored ++ lines ≠ [] := List.append_ne_nil_of_right_ne_nil stored some
    rw [holds.size, holds.disk, Block.overwrite, covers, take_blockContent, blockContent,
      if_neg nonempty, encodeLines_append]
    simp only [List.append_assoc, List.append_nil]
  · rw [size, holds.size, encodeLines_append, List.length_append]
  · rw [cursors, holds.size]
    rfl

end

end Files

end GradidoNode
