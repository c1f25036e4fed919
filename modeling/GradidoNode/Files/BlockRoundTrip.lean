import GradidoNode.Files.DamagedBlock

/-!
# The block file object over many calls

Between two calls of `appendLines` the timer may close the stream; opening it again
takes the size from the file. What was appended is read back and rebuilt exactly if no
line is shorter than the reader's minimum and every line starts below 2 GiB.
-/

namespace GradidoNode

open Library

namespace Files

variable (genericHash : List UInt8 → Digest)

/-- A block file with its stream. -/
structure BlockFile where
  file : Block
  /-- Whether `mBlockFile` is set. -/
  isOpen : Bool

namespace BlockFile

/-- `Block::getOpenFile`. A file that is not longer than a hash leaves the size as it is. -/
def getOpenFile (block : BlockFile) : BlockFile :=
  if block.isOpen then block
  else {
    file := { block.file with
      currentFileSize :=
        if block.file.disk.length > 32 then UInt32.ofNat block.file.disk.length - 32
        else block.file.currentFileSize }
    isOpen := true }

/-- The constructor. -/
def new (disk : List UInt8) : BlockFile :=
  getOpenFile { file := { disk := disk, currentFileSize := 0 }, isOpen := false }

/-- `Block::callFromTimer`; the stream is closed if it was not used for longer than the
cache timeout. -/
def callFromTimer (idle : Bool) (block : BlockFile) : BlockFile :=
  if idle then { block with isOpen := false } else block

def appendLines (lines : List (List UInt8)) (block : BlockFile) : List UInt32 × BlockFile :=
  let opened := block.getOpenFile
  let appended := Block.appendLines genericHash lines opened.file
  (appended.1, { opened with file := appended.2 })

def readLine (path : String) (startReading : UInt32) (block : BlockFile) :
    Except Exception (List UInt8) :=
  block.getOpenFile.file.readLine path startReading

/-- The first line read opens the stream. -/
def rebuildBlockIndex (uninitialised : Digest) (path : String) (block : BlockFile) :
    Except Exception (List (Int32 × List UInt8)) :=
  block.getOpenFile.file.rebuildBlockIndex genericHash uninitialised path

/-- What is called between the opening of a block file and its reading back. -/
inductive Call
  | appendLines (lines : List (List UInt8))
  | callFromTimer (idle : Bool)

/-- A call with the cursors it returns. -/
def perform (block : BlockFile) : Call → List UInt32 × BlockFile
  | .appendLines lines => block.appendLines genericHash lines
  | .callFromTimer idle => ([], block.callFromTimer idle)

/-- The cursors returned by a sequence of calls, and the block file after it. -/
def performAll : List Call → BlockFile → List UInt32 × BlockFile
  | [], block => ([], block)
  | call :: rest, block =>
      let performed := block.perform genericHash call
      let later := performAll rest performed.2
      (performed.1 ++ later.1, later.2)

/-- The lines of all calls. -/
def linesOf : List Call → List (List UInt8)
  | [] => []
  | .appendLines lines :: rest => lines ++ linesOf rest
  | .callFromTimer _ :: rest => linesOf rest

/-- The block file stores these lines. One to which only empty lists were appended
consists of the hash of nothing. -/
structure Keeps (block : BlockFile) (lines : List (List UInt8)) : Prop where
  disk : block.file.disk = blockContent genericHash lines ∨
    lines = [] ∧ block.file.disk = Digest.zero.1
  size : block.file.currentFileSize.toNat = (encodeLines lines).length

section

variable {genericHash}

theorem Keeps.holds {block : BlockFile} {lines : List (List UInt8)}
    (keeps : block.Keeps genericHash lines) (some : lines ≠ []) :
    block.file.Holds genericHash lines :=
  ⟨keeps.disk.resolve_right fun zero => some zero.1, keeps.size⟩

theorem keeps_new : (new []).Keeps genericHash [] := ⟨Or.inl rfl, rfl⟩

/-- Opening the stream again finds the size that was there before. -/
theorem Keeps.getOpenFile_file {block : BlockFile} {lines : List (List UInt8)}
    (keeps : block.Keeps genericHash lines) : block.getOpenFile.file = block.file := by
  by_cases isOpen : block.isOpen = true
  · rw [getOpenFile, if_pos isOpen]
  · rw [getOpenFile, if_neg isOpen]
    have unchanged : (if block.file.disk.length > 32 then UInt32.ofNat block.file.disk.length - 32
        else block.file.currentFileSize) = block.file.currentFileSize := by
      by_cases none : lines = []
      · subst none
        have short : ¬ block.file.disk.length > 32 := by
          rcases keeps.disk with empty | ⟨_, zero⟩
          · rw [empty]
            exact Nat.not_lt_zero _
          · rw [zero, Digest.zero.2]
            exact Nat.lt_irrefl 32
        rw [if_neg short]
      · have length : block.file.disk.length = (encodeLines lines).length + 32 := by
          rw [(keeps.holds none).disk, blockContent, if_neg none, List.length_append,
            (chainedHash genericHash lines).2]
        have cut : UInt32.ofNat block.file.disk.length - 32 = block.file.currentFileSize := by
          rw [length, ← keeps.size, UInt32.ofNat_add, UInt32.ofNat_toNat]
          exact UInt32.add_sub_cancel _ _
        rw [cut, ite_self]
    rw [unchanged]

/-- Appending to a file that has only the hash of nothing is appending to an empty file. -/
theorem appendLines_zero {lines : List (List UInt8)} {file : Block}
    (disk : file.disk = Digest.zero.1) (size : file.currentFileSize = 0) :
    Block.appendLines genericHash lines file =
      Block.appendLines genericHash lines { disk := [], currentFileSize := 0 } := by
  have noHash : ¬ (0 : UInt32) > 0 := by decide
  simp only [Block.appendLines, Block.AppendState.start, size, if_neg noHash]
  refine congrArg (Prod.mk _) ?_
  generalize lines.foldl (Block.appendLine genericHash) _ = final
  have covered : 32 ≤ (final.written ++ final.hash.1).length := by
    rw [List.length_append, final.hash.2]
    exact Nat.le_add_left 32 _
  have nothing : file.disk.drop ((0 : UInt32).toNat + (final.written ++ final.hash.1).length) = [] := by
    rw [disk]
    apply List.drop_eq_nil_of_le
    rw [Digest.zero.2]
    exact Nat.le_trans covered (Nat.le_add_left _ _)
  simp only [Block.overwrite, nothing, List.drop_nil, List.take_nil]
  rfl

/-- Appending no line writes the hash that is there once more. -/
theorem appendLines_nil_of_holds {lines : List (List UInt8)} {file : Block}
    (holds : file.Holds genericHash lines) (some : lines ≠ []) :
    Block.appendLines genericHash [] file = ([], file) := by
  have behind : file.disk.drop file.currentFileSize.toNat = (chainedHash genericHash lines).1 := by
    rw [holds.size, holds.disk, blockContent, if_neg some, List.drop_left]
  have positive : file.currentFileSize > 0 := by
    rw [gt_iff_lt, UInt32.lt_iff_toNat_lt, holds.size]
    obtain ⟨line, rest, rfl⟩ := List.exists_cons_of_ne_nil some
    rw [length_encodeLines_cons]
    exact Nat.lt_of_lt_of_le Nat.zero_lt_two (by omega)
  have hash : (file.disk.drop file.currentFileSize.toNat).take 32 =
      (chainedHash genericHash lines).1 := by
    rw [behind]
    exact List.take_of_length_le (Nat.le_of_eq (chainedHash genericHash lines).2)
  have nothing : file.disk.drop (file.currentFileSize.toNat +
      (chainedHash genericHash lines).1.length) = [] := by
    rw [← List.drop_drop, behind, List.drop_length]
  have same : Block.overwrite file.disk file.currentFileSize.toNat
      (chainedHash genericHash lines).1 = file.disk := by
    rw [Block.overwrite, nothing, List.append_nil, ← behind, List.take_append_drop]
  simp only [Block.appendLines, Block.AppendState.start, if_pos positive, hash,
    Digest.readInto_self, List.foldl_nil, List.nil_append, same]

/-- Appending to what is kept keeps both. -/
theorem Keeps.appendLines {block : BlockFile} {stored lines : List (List UInt8)}
    (keeps : block.Keeps genericHash stored)
    (short : ∀ line ∈ lines, line.length < 2 ^ 16)
    (fits : (encodeLines (stored ++ lines)).length < 2 ^ 32) :
    (block.appendLines genericHash lines).2.Keeps genericHash (stored ++ lines) ∧
      (block.appendLines genericHash lines).1 =
        (positionsFrom (encodeLines stored).length lines).map UInt32.ofNat := by
  have opened := keeps.getOpenFile_file
  simp only [BlockFile.appendLines, opened]
  by_cases some : lines = []
  · subst some
    rw [List.append_nil]
    by_cases none : stored = []
    · subst none
      have size : block.file.currentFileSize = 0 := UInt32.toNat_inj.mp keeps.size
      have written : Block.appendLines genericHash [] block.file =
          ([], { disk := Digest.zero.1, currentFileSize := 0 }) := by
        rcases keeps.disk with empty | ⟨_, zero⟩
        · have file : block.file = { disk := [], currentFileSize := 0 } := by
            rw [← size, ← show block.file.disk = [] from empty]
          rw [file]
          rfl
        · rw [appendLines_zero zero size]
          rfl
      rw [written]
      exact ⟨⟨Or.inr ⟨rfl, rfl⟩, rfl⟩, rfl⟩
    · rw [appendLines_nil_of_holds (keeps.holds none) none]
      exact ⟨⟨Or.inl (keeps.holds none).disk, keeps.size⟩, rfl⟩
  · have appended : (Block.appendLines genericHash lines block.file).2.Holds genericHash
          (stored ++ lines) ∧
        (Block.appendLines genericHash lines block.file).1 =
          (positionsFrom (encodeLines stored).length lines).map UInt32.ofNat := by
      rcases keeps.disk with content | ⟨rfl, zero⟩
      · exact Block.appendLines_holds ⟨content, keeps.size⟩ some short fits
      · rw [appendLines_zero zero (UInt32.toNat_inj.mp keeps.size)]
        exact Block.appendLines_holds ⟨rfl, rfl⟩ some short fits
    exact ⟨⟨Or.inl appended.1.disk, appended.1.size⟩, appended.2⟩

theorem positionsFrom_append (start : Nat) (first second : List (List UInt8)) :
    positionsFrom start (first ++ second) =
      positionsFrom start first ++ positionsFrom (start + (encodeLines first).length) second := by
  induction first generalizing start with
  | nil => rfl
  | cons line rest ih =>
      rw [List.cons_append, positionsFrom, ih, positionsFrom, length_encodeLines_cons,
        List.cons_append, Nat.add_assoc, Nat.add_assoc, Nat.add_assoc]

/-- After any calls the block file keeps the lines of all of them, and the cursors are the
running offsets. -/
theorem Keeps.performAll {block : BlockFile} {stored : List (List UInt8)} {calls : List Call}
    (keeps : block.Keeps genericHash stored)
    (short : ∀ line ∈ linesOf calls, line.length < 2 ^ 16)
    (fits : (encodeLines (stored ++ linesOf calls)).length < 2 ^ 32) :
    (performAll genericHash calls block).2.Keeps genericHash (stored ++ linesOf calls) ∧
      (performAll genericHash calls block).1 =
        (positionsFrom (encodeLines stored).length (linesOf calls)).map UInt32.ofNat := by
  induction calls generalizing block stored with
  | nil =>
      rw [linesOf, List.append_nil]
      exact ⟨keeps, rfl⟩
  | cons call rest ih =>
      cases call with
      | callFromTimer idle =>
          have kept : (block.callFromTimer idle).Keeps genericHash stored := by
            cases idle with
            | false => exact keeps
            | true => exact ⟨keeps.disk, keeps.size⟩
          exact ih kept short fits
      | appendLines lines =>
          rw [linesOf, ← List.append_assoc] at fits
          have shorter : (encodeLines (stored ++ lines)).length < 2 ^ 32 := by
            rw [encodeLines_append, List.length_append] at fits
            omega
          obtain ⟨appended, cursors⟩ := keeps.appendLines
            (fun line member => short line (List.mem_append_left _ member)) shorter
          obtain ⟨kept, later⟩ := ih appended
            (fun line member => short line (List.mem_append_right _ member)) fits
          refine ⟨?_, ?_⟩
          · rw [linesOf, ← List.append_assoc]
            exact kept
          · rw [linesOf, positionsFrom_append, List.map_append, ← List.length_append,
              ← encodeLines_append, ← cursors, ← later]
            rfl

/-- A line is paired with the position at which it is stored. -/
theorem exists_of_mem_zip_positionsFrom {Cursor : Type} {cursorOf : Nat → Cursor} {start : Nat}
    {lines : List (List UInt8)} {cursor : Cursor} {line : List UInt8}
    (member : (cursor, line) ∈ ((positionsFrom start lines).map cursorOf).zip lines) :
    ∃ before rest, lines = before ++ line :: rest ∧
      cursor = cursorOf (start + (encodeLines before).length) := by
  induction lines generalizing start with
  | nil => cases member
  | cons head tail ih =>
      rcases List.mem_cons.mp member with first | later
      · cases first
        exact ⟨[], tail, rfl, rfl⟩
      · obtain ⟨before, rest, rfl, isCursor⟩ := ih later
        refine ⟨head :: before, rest, rfl, ?_⟩
        rw [isCursor, length_encodeLines_cons, Nat.add_assoc, Nat.add_assoc, Nat.add_assoc]

end

/-- What is claimed of the calls on a new block file: the returned cursors are the running
offsets, each leads back to its line, and rebuilding finds all of them again. -/
structure RoundTrips (path : String) (calls : List Call) : Prop where
  cursors : (performAll genericHash calls (new [])).1.map UInt32.toNat =
    positionsFrom 0 (linesOf calls)
  linesRead : ∀ cursor line,
    (cursor, line) ∈ (performAll genericHash calls (new [])).1.zip (linesOf calls) →
      (performAll genericHash calls (new [])).2.readLine path cursor = .ok line
  rebuilt : ∀ uninitialised, ∃ pendingLines,
    (performAll genericHash calls (new [])).2.rebuildBlockIndex genericHash uninitialised path =
        .ok pendingLines ∧
      pendingLines.map (fun entry => (entry.1.toInt, entry.2)) =
        ((positionsFrom 0 (linesOf calls)).map Int.ofNat).zip (linesOf calls)

section

variable {genericHash}

/-- An `int32_t` cursor points at every line that is rebuilt. -/
theorem RoundTrips.starts {path : String} {calls : List Call}
    (trips : RoundTrips genericHash path calls) :
    ∀ start ∈ positionsFrom 0 (linesOf calls), start < 2 ^ 31 := by
  intro start member
  obtain ⟨pendingLines, _, located⟩ := trips.rebuilt Digest.zero
  have firsts := congrArg (List.map Prod.fst) located
  rw [List.map_map, List.map_fst_zip (by rw [List.length_map, length_positionsFrom])] at firsts
  have isCursor : Int.ofNat start ∈ pendingLines.map (Prod.fst ∘ fun entry =>
      (entry.1.toInt, entry.2)) := by
    rw [firsts]
    exact List.mem_map_of_mem member
  obtain ⟨entry, _, same⟩ := List.mem_map.mp isCursor
  have below := entry.1.toInt_lt
  have cursor : entry.1.toInt = Int.ofNat start := same
  rw [cursor, Int.ofNat_eq_natCast] at below
  omega

/-- Without a line there is no hash behind the last line to compare with. -/
theorem RoundTrips.some {path : String} {calls : List Call}
    (trips : RoundTrips genericHash path calls)
    (keeps : (performAll genericHash calls (new [])).2.Keeps genericHash (linesOf calls)) :
    linesOf calls ≠ [] := by
  intro none
  let uninitialised : Digest := ⟨List.replicate 32 1, rfl⟩
  obtain ⟨pendingLines, rebuilt, _⟩ := trips.rebuilt uninitialised
  generalize (performAll genericHash calls (new [])).2 = block at keeps rebuilt
  rw [none] at keeps
  have size : block.file.currentFileSize = 0 := UInt32.toNat_inj.mp keeps.size
  have stops (fuel : Nat) (state : Block.RebuildState) (first : state.fileCursor = 0) :
      Block.rebuildLoop genericHash path block.file fuel state = .ok state := by
    cases fuel with
    | zero => rfl
    | succ fuel =>
        rw [Block.rebuildLoop, first, size]
        exact if_neg (by decide)
  rw [rebuildBlockIndex, keeps.getOpenFile_file, Block.rebuildBlockIndex, stops _ _ rfl] at rebuilt
  dsimp only at rebuilt
  rw [List.drop_length, List.take_nil] at rebuilt
  have mismatch : Digest.zero ≠ uninitialised.readInto [] := by decide
  rw [if_neg mismatch] at rebuilt
  cases rebuilt

/-- A line that is read back has the reader's minimal size. -/
theorem RoundTrips.long {path : String} {calls : List Call}
    (trips : RoundTrips genericHash path calls)
    (keeps : (performAll genericHash calls (new [])).2.Keeps genericHash (linesOf calls))
    (cursors : (performAll genericHash calls (new [])).1 =
      (positionsFrom 0 (linesOf calls)).map UInt32.ofNat) :
    ∀ line ∈ linesOf calls, Block.minimalFileSize ≤ line.length := by
  intro line member
  obtain ⟨before, rest, lines⟩ := List.append_of_mem member
  have nonempty : linesOf calls ≠ [] := List.ne_nil_of_mem member
  have holds := keeps.holds nonempty
  let start := (encodeLines before).length
  have paired : (UInt32.ofNat start, line) ∈
      (performAll genericHash calls (new [])).1.zip (linesOf calls) := by
    rw [cursors, lines, positionsFrom_append, List.map_append,
      List.zip_append (by rw [List.length_map, length_positionsFrom])]
    refine List.mem_append_right _ ?_
    rw [Nat.zero_add]
    exact List.mem_cons_self ..
  have read := trips.linesRead _ _ paired
  rw [readLine, keeps.getOpenFile_file] at read
  generalize (performAll genericHash calls (new [])).2 = block at holds read
  obtain ⟨admitted, cut⟩ := Block.readLine_eq_ok_iff.mp read
  have below : start < 2 ^ 31 := by
    refine trips.starts _ ?_
    rw [lines, ← Nat.zero_add start]
    exact mem_positionsFrom_append 0 before line rest
  have position : (UInt32.ofNat start).toNat = start := by
    rw [UInt32.toNat_ofNat']
    exact Nat.mod_eq_of_lt (by omega)
  have fieldBounded := (block.file.transactionSize (UInt32.ofNat start)).toNat_lt
  have length : block.file.disk.length = block.file.currentFileSize.toNat + 32 := by
    rw [holds.disk, blockContent, if_neg nonempty, List.length_append,
      (chainedHash genericHash (linesOf calls)).2, holds.size]
  have ends := admitted.ends
  rw [position] at cut ends
  have complete : line.length = (block.file.transactionSize (UInt32.ofNat start)).toNat := by
    rw [cut, List.length_take, List.length_drop]
    omega
  rw [complete]
  exact admitted.long

end

/-- The lines that come back: there is one, none is shorter than 27 bytes, and all start
below 2 GiB. -/
structure ComeBack (lines : List (List UInt8)) : Prop where
  some : lines ≠ []
  long : ∀ line ∈ lines, Block.minimalFileSize ≤ line.length
  starts : ∀ start ∈ positionsFrom 0 lines, start < 2 ^ 31

/-- Calls that append lines of 25 to 65535 bytes round trip exactly if their lines come back. -/
theorem roundTrips_iff_comeBack (path : String) {calls : List Call}
    (widths : ∀ line ∈ linesOf calls, 25 ≤ line.length ∧ line.length ≤ 65535) :
    RoundTrips genericHash path calls ↔ ComeBack (linesOf calls) := by
  have short : ∀ line ∈ linesOf calls, line.length < 2 ^ 16 := by
    intro line member
    have width := (widths line member).2
    omega
  have kept (starts : ∀ start ∈ positionsFrom 0 (linesOf calls), start < 2 ^ 31) :
      (performAll genericHash calls (new [])).2.Keeps genericHash (linesOf calls) ∧
        (performAll genericHash calls (new [])).1 =
          (positionsFrom 0 (linesOf calls)).map UInt32.ofNat := by
    have bounded := length_encodeLines_of_starts short starts
    exact keeps_new.performAll short (by rw [List.nil_append]; omega)
  constructor
  · intro trips
    obtain ⟨keeps, cursors⟩ := kept trips.starts
    exact ⟨trips.some keeps, trips.long keeps cursors, trips.starts⟩
  · intro back
    obtain ⟨keeps, cursors⟩ := kept back.starts
    have holds := keeps.holds back.some
    have walkable : Walkable (linesOf calls) := ⟨back.long, short, back.starts⟩
    refine ⟨?_, ?_, ?_⟩
    · rw [cursors, List.map_map]
      refine (List.map_congr_left fun start member => ?_).trans (List.map_id _)
      have below := back.starts start member
      change (UInt32.ofNat start).toNat = start
      rw [UInt32.toNat_ofNat']
      exact Nat.mod_eq_of_lt (by omega)
    · intro cursor line member
      rw [cursors] at member
      obtain ⟨before, rest, lines, isCursor⟩ := exists_of_mem_zip_positionsFrom member
      have isLine : line ∈ linesOf calls := by
        rw [lines]
        exact List.mem_append_right _ (List.mem_cons_self ..)
      rw [readLine, keeps.getOpenFile_file, isCursor, Nat.zero_add]
      exact Block.readLine_of_holds (lines ▸ holds) (back.long line isLine) (short line isLine)
    · intro uninitialised
      refine ⟨located 0 (linesOf calls), ?_, ?_⟩
      · rw [rebuildBlockIndex, keeps.getOpenFile_file]
        exact Block.rebuildBlockIndex_of_holds back.some holds walkable
      · rw [located, List.zip_map_left, List.zip_map_left, List.map_map]
        refine List.map_congr_left fun entry member => ?_
        have start := back.starts entry.1 (List.of_mem_zip member).1
        have cursor : (fileCursorOf entry.1).toInt = Int.ofNat entry.1 :=
          toInt_toInt32_ofNat start
        exact Prod.ext cursor rfl

section Example

/-- A line of 27 bytes and, after the stream was closed, one of 28. -/
def reopened : List Call :=
  [.appendLines [List.replicate 27 1], .callFromTimer true, .appendLines [List.replicate 28 2]]

/-- Lines appended, the file closed and opened again, and further lines appended. -/
theorem roundTrips_reopened :
    RoundTrips (fun _ => Digest.zero) "blk00000001.dat" reopened :=
  (roundTrips_iff_comeBack (fun _ => Digest.zero) "blk00000001.dat" (by decide)).mpr
    ⟨by decide, by decide, by decide⟩

/-- A single line of the minimal transaction size is too small for the reader. -/
theorem not_roundTrips_minimal :
    ¬ RoundTrips (fun _ => Digest.zero) "blk00000001.dat"
      [.appendLines [List.replicate 25 1]] := by
  intro trips
  have read := trips.linesRead 0 (List.replicate 25 1) (by decide)
  cases read

end Example

end BlockFile

end Files

end GradidoNode
