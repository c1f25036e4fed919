import GradidoNode.Files.Block

/-!
# Reading a whole block file back

Rebuilding an index walks over a block file line by line, checks the chained hash and
passes every line on with the position at which it starts.
-/

namespace GradidoNode

open Library

namespace Files

namespace Block

/-- The locals of `rebuildBlockIndex`. -/
structure RebuildState where
  fileCursor : Int32
  /-- The position of the file stream. -/
  position : Nat
  hash : Digest
  /-- The lines pushed into the `RebuildBlockIndexTask`. -/
  pendingLines : List (Int32 × List UInt8)

/-- The loop of `rebuildBlockIndex`. The cursor is compared as a `size_t` and moved as an
`int32_t`. Every round moves it on, so the size of the file is fuel enough. -/
def rebuildLoop (genericHash : List UInt8 → Digest) (path : String) (file : Block) :
    Nat → RebuildState → Except Exception RebuildState
  | 0, state => .ok state
  | fuel + 1, state =>
      if state.fileCursor.toInt64.toUInt64 + 27 ≤ file.currentFileSize.toUInt64 then
        match file.readLine path state.fileCursor.toUInt32 with
        | .error exception => .error exception
        | .ok line =>
            rebuildLoop genericHash path file fuel {
              fileCursor :=
                (state.fileCursor.toUInt32 + UInt32.ofNat (line.length + 2)).toInt32
              position := state.fileCursor.toUInt32.toNat + 2 + line.length
              hash := calculateOneHashStep genericHash state.hash line
              pendingLines := state.pendingLines ++ [(state.fileCursor, line)] }
      else .ok state

/-- `Block::rebuildBlockIndex`: the lines with their positions, if the hash behind the
last one is right. `uninitialised` is what the array `hash2` holds before it is read. -/
def rebuildBlockIndex (genericHash : List UInt8 → Digest) (uninitialised : Digest)
    (path : String) (file : Block) : Except Exception (List (Int32 × List UInt8)) :=
  match rebuildLoop genericHash path file file.disk.length {
      fileCursor := 0
      position := file.disk.length
      hash := Digest.zero
      pendingLines := [] } with
  | .error exception => .error exception
  | .ok final =>
      let hash2 := uninitialised.readInto ((file.disk.drop final.position).take 32)
      if final.hash = hash2 then .ok final.pendingLines
      else .error (.hashMismatch "block hash mismatch" final.hash.1 hash2.1)

end Block

/-- The file cursor of a line as the index keeps it. -/
def fileCursorOf (position : Nat) : Int32 := (UInt32.ofNat position).toInt32

theorem toUInt32_fileCursorOf (position : Nat) :
    (fileCursorOf position).toUInt32 = UInt32.ofNat position := rfl

theorem toNat_toUInt32_fileCursorOf {position : Nat} (below : position < 2 ^ 31) :
    (fileCursorOf position).toUInt32.toNat = position := by
  rw [toUInt32_fileCursorOf, UInt32.toNat_ofNat']
  exact Nat.mod_eq_of_lt (by omega)

/-- Lines together with the file cursors at which they are stored. -/
def located (start : Nat) (lines : List (List UInt8)) : List (Int32 × List UInt8) :=
  ((positionsFrom start lines).map fileCursorOf).zip lines

theorem located_cons (start : Nat) (line : List UInt8) (rest : List (List UInt8)) :
    located start (line :: rest) =
      (fileCursorOf start, line) :: located (start + 2 + line.length) rest := rfl

/-- A file whose lines can be read back: each is long enough to be a transaction and fits
into its size field, and all start below 2 GiB. -/
structure Readable (lines : List (List UInt8)) : Prop where
  long : ∀ line ∈ lines, Block.minimalFileSize ≤ line.length
  short : ∀ line ∈ lines, line.length < 2 ^ 16
  below : (encodeLines lines).length < 2 ^ 31

/-- A file whose lines the loop of `rebuildBlockIndex` reaches: every line starts below
2 GiB, where an `int32_t` cursor can still point at it. -/
structure Walkable (lines : List (List UInt8)) : Prop where
  long : ∀ line ∈ lines, Block.minimalFileSize ≤ line.length
  short : ∀ line ∈ lines, line.length < 2 ^ 16
  starts : ∀ start ∈ positionsFrom 0 lines, start < 2 ^ 31

theorem Readable.walkable {lines : List (List UInt8)} (readable : Readable lines) :
    Walkable lines where
  long := readable.long
  short := readable.short
  starts start member := by
    have bounds := lt_of_mem_positionsFrom member
    have below := readable.below
    omega

theorem mem_positionsFrom_append (start : Nat) (before : List (List UInt8)) (line : List UInt8)
    (rest : List (List UInt8)) :
    start + (encodeLines before).length ∈ positionsFrom start (before ++ line :: rest) := by
  induction before generalizing start with
  | nil => exact List.mem_cons_self ..
  | cons head before ih =>
      rw [length_encodeLines_cons, ← Nat.add_assoc, ← Nat.add_assoc]
      exact List.mem_cons_of_mem _ (ih (start + 2 + head.length))

/-- The content ends with its last line. -/
theorem exists_last_start {start : Nat} {lines : List (List UInt8)} (some : lines ≠ []) :
    ∃ last ∈ positionsFrom start lines, ∃ line ∈ lines,
      start + (encodeLines lines).length = last + 2 + line.length := by
  induction lines generalizing start with
  | nil => exact absurd rfl some
  | cons line rest ih =>
      rw [length_encodeLines_cons]
      by_cases single : rest = []
      · subst single
        refine ⟨start, List.mem_cons_self .., line, List.mem_cons_self .., ?_⟩
        simp only [encodeLines, List.flatMap_nil, List.length_nil]
        omega
      · obtain ⟨last, position, other, member, ends⟩ := @ih (start + 2 + line.length) single
        refine ⟨last, List.mem_cons_of_mem _ position, other, List.mem_cons_of_mem _ member, ?_⟩
        omega

/-- Only the last line may reach over 2 GiB. -/
theorem length_encodeLines_of_starts {lines : List (List UInt8)}
    (short : ∀ line ∈ lines, line.length < 2 ^ 16)
    (starts : ∀ start ∈ positionsFrom 0 lines, start < 2 ^ 31) :
    (encodeLines lines).length < 2 ^ 31 + 2 ^ 17 := by
  by_cases none : lines = []
  · subst none
    exact Nat.lt_of_lt_of_le Nat.zero_lt_one (by omega)
  · obtain ⟨last, position, line, member, ends⟩ := @exists_last_start 0 lines none
    have start := starts last position
    have width := short line member
    omega

section

variable {genericHash : List UInt8 → Digest}

/-- The bytes of a file behind its first lines. -/
theorem Block.Holds.drop {file : Block} {before rest : List (List UInt8)}
    (holds : file.Holds genericHash (before ++ rest)) (some : before ++ rest ≠ []) :
    file.disk.drop (encodeLines before).length =
      encodeLines rest ++ (chainedHash genericHash (before ++ rest)).1 := by
  rw [holds.disk, blockContent, if_neg some, encodeLines_append, List.append_assoc,
    List.drop_left]

/-- Every line is read back at its position. -/
theorem Block.readLine_of_holds {file : Block} {path : String} {line : List UInt8}
    {before rest : List (List UInt8)} (holds : file.Holds genericHash (before ++ line :: rest))
    (long : minimalFileSize ≤ line.length) (short : line.length < 2 ^ 16) :
    file.readLine path (UInt32.ofNat (encodeLines before).length) = .ok line := by
  have size := holds.size
  have below := file.currentFileSize.toNat_lt
  rw [size] at below
  rw [encodeLines_append, List.length_append, length_encodeLines_cons] at below size
  have behind := holds.drop (List.append_ne_nil_of_right_ne_nil before (List.cons_ne_nil _ _))
  have start : (UInt32.ofNat (encodeLines before).length).toNat = (encodeLines before).length := by
    rw [UInt32.toNat_ofNat']
    exact Nat.mod_eq_of_lt (by omega)
  have fieldWidth : (LittleEndian.encode (UInt16.ofNat line.length)).length = 2 :=
    LittleEndian.length_encode (UInt16.ofNat line.length)
  have sizeField : (file.disk.drop (encodeLines before).length).take 2 =
      LittleEndian.encode (UInt16.ofNat line.length) := by
    rw [behind, encodeLines_cons, List.append_assoc, List.append_assoc]
    exact List.take_left' fieldWidth
  have lineSize : (UInt16.ofNat line.length).toNat = line.length := Nat.mod_eq_of_lt short
  have data : (file.disk.drop ((encodeLines before).length + 2)).take line.length = line := by
    rw [← List.drop_drop, behind, encodeLines_cons, List.append_assoc, List.append_assoc,
      List.drop_left' fieldWidth]
    exact List.take_left
  have notSmall : ¬ file.currentFileSize.toNat ≤ minimalFileSize := by
    rw [size]
    unfold minimalFileSize at long ⊢
    omega
  have inside : ¬ (encodeLines before).length > file.currentFileSize.toNat - minimalFileSize := by
    rw [size]
    unfold minimalFileSize at long ⊢
    omega
  have complete : ¬ UInt32.ofNat (encodeLines before).length +
      (UInt16.ofNat line.length).toUInt32 > file.currentFileSize := by
    rw [gt_iff_lt, UInt32.lt_iff_toNat_lt, UInt32.toNat_add, start, UInt16.toNat_toUInt32,
      lineSize, size]
    have bounded := Nat.mod_le ((encodeLines before).length + line.length) (2 ^ 32)
    omega
  have longEnough : ¬ (UInt16.ofNat line.length).toNat < minimalFileSize := by
    rw [lineSize]
    omega
  unfold readLine
  rw [if_neg notSmall, start, if_neg inside]
  dsimp only
  rw [sizeField, LittleEndian.decode_encode, if_neg complete, if_neg longEnough, lineSize, data]

/-- The loop, started in front of the lines `rest`, passes them all on and stops behind
the last one. -/
theorem Block.rebuildLoop_of_holds {file : Block} {path : String} {before rest : List (List UInt8)}
    (holds : file.Holds genericHash (before ++ rest)) (walkable : Walkable (before ++ rest))
    {fuel : Nat} (enough : rest.length < fuel) {state : RebuildState}
    (cursor : state.fileCursor = fileCursorOf (encodeLines before).length)
    (position : rest = [] → state.position = (encodeLines before).length) :
    rebuildLoop genericHash path file fuel state = .ok {
      fileCursor := fileCursorOf (encodeLines (before ++ rest)).length
      position := (encodeLines (before ++ rest)).length
      hash := rest.foldl (calculateOneHashStep genericHash) state.hash
      pendingLines := state.pendingLines ++ located (encodeLines before).length rest } := by
  induction rest generalizing before fuel state with
  | nil =>
      obtain ⟨fuel, rfl⟩ := Nat.exists_eq_succ_of_ne_zero (Nat.ne_of_gt enough)
      rw [List.append_nil] at holds walkable
      have below := length_encodeLines_of_starts walkable.short walkable.starts
      have size : (encodeLines before).length = file.currentFileSize.toNat := holds.size.symm
      have behind : ¬ state.fileCursor.toInt64.toUInt64 + 27 ≤ file.currentFileSize.toUInt64 := by
        have behindContent := le_toNat_signExtended (fileCursorOf (encodeLines before).length)
        rw [toUInt32_fileCursorOf, UInt32.toNat_ofNat',
          Nat.mod_eq_of_lt (by omega : (encodeLines before).length < 2 ^ 32)] at behindContent
        rw [cursor, UInt64.le_iff_toNat_le, UInt64.toNat_add, UInt32.toNat_toUInt64, ← size]
        change ¬ (_ + 27) % 2 ^ 64 ≤ _
        rw [Nat.mod_eq_of_lt (by omega)]
        omega
      rw [rebuildLoop, if_neg behind, List.append_nil, List.foldl_nil, located]
      rw [← cursor, ← position rfl]
      simp [positionsFrom]
  | cons line rest ih =>
      obtain ⟨fuel, rfl⟩ := Nat.exists_eq_succ_of_ne_zero (Nat.ne_of_gt (Nat.zero_lt_of_lt enough))
      have isLine : line ∈ before ++ line :: rest :=
        List.mem_append_right _ (List.mem_cons_self ..)
      have size := holds.size
      have long := walkable.long line isLine
      have start : (encodeLines before).length < 2 ^ 31 := by
        refine walkable.starts _ ?_
        rw [← Nat.zero_add (encodeLines before).length]
        exact mem_positionsFrom_append 0 before line rest
      rw [encodeLines_append, List.length_append, length_encodeLines_cons] at size
      have inside : state.fileCursor.toInt64.toUInt64 + 27 ≤ file.currentFileSize.toUInt64 := by
        rw [cursor, UInt64.le_iff_toNat_le, UInt64.toNat_add, fileCursorOf,
          toNat_toUInt64_toInt32_ofNat start, UInt32.toNat_toUInt64, size]
        have bounded : (encodeLines before).length + 27 < 2 ^ 64 := by omega
        change ((encodeLines before).length + 27) % 2 ^ 64 ≤ _
        rw [Nat.mod_eq_of_lt bounded]
        unfold minimalFileSize at long
        omega
      have lineRead : file.readLine path state.fileCursor.toUInt32 = .ok line := by
        rw [cursor, toUInt32_fileCursorOf]
        exact readLine_of_holds holds long (walkable.short line isLine)
      have advanced : (encodeLines (before ++ [line])).length =
          (encodeLines before).length + 2 + line.length := by
        rw [encodeLines_append, List.length_append, length_encodeLines_cons]
        simp only [encodeLines, List.flatMap_nil, List.length_nil]
        omega
      have regrouped : before ++ line :: rest = (before ++ [line]) ++ rest := by
        rw [List.append_assoc, List.singleton_append]
      rw [regrouped] at holds walkable
      rw [rebuildLoop, if_pos inside, lineRead]
      dsimp only
      rw [ih holds walkable (Nat.lt_of_succ_lt_succ enough) ?_ ?_]
      · rw [advanced, List.foldl_cons, cursor, located_cons]
        simp only [List.append_assoc, List.singleton_append]
      · have moved : (encodeLines before).length + 2 + line.length =
            (encodeLines before).length + (line.length + 2) := by omega
        have sum : UInt32.ofNat (encodeLines before).length + UInt32.ofNat (line.length + 2) =
            UInt32.ofNat ((encodeLines before).length + (line.length + 2)) :=
          (UInt32.ofNat_add _ _).symm
        rw [cursor, advanced, moved, toUInt32_fileCursorOf, sum]
        rfl
      · intro _
        rw [cursor, toNat_toUInt32_fileCursorOf start, advanced]

/-- Rebuilding reads every line of a well-formed file back, each with its position. -/
theorem Block.rebuildBlockIndex_of_holds {file : Block} {path : String}
    {lines : List (List UInt8)} {uninitialised : Digest} (some : lines ≠ [])
    (holds : file.Holds genericHash lines) (walkable : Walkable lines) :
    file.rebuildBlockIndex genericHash uninitialised path = .ok (located 0 lines) := by
  have enough : lines.length < file.disk.length := by
    rw [holds.disk, blockContent, if_neg some, List.length_append]
    have atLeast : lines.length ≤ (encodeLines lines).length := by
      clear holds walkable some
      induction lines with
      | nil => exact Nat.zero_le _
      | cons line rest ih =>
          rw [length_encodeLines_cons, List.length_cons]
          omega
    rw [(chainedHash genericHash lines).2]
    omega
  have walked := @rebuildLoop_of_holds genericHash file path [] lines holds walkable
    file.disk.length enough {
      fileCursor := 0
      position := file.disk.length
      hash := Digest.zero
      pendingLines := [] } rfl (fun none => absurd none some)
  have behind := @Block.Holds.drop genericHash file lines [] (by rwa [List.append_nil])
    (by rwa [List.append_nil])
  rw [List.append_nil] at behind
  have hash2 : (file.disk.drop (encodeLines lines).length).take 32 =
      (chainedHash genericHash lines).1 := by
    rw [behind]
    exact List.take_of_length_le (Nat.le_of_eq (chainedHash genericHash lines).2)
  unfold rebuildBlockIndex
  rw [walked]
  simp only [List.nil_append, hash2, Digest.readInto_self]
  exact if_pos rfl

end

end Files

end GradidoNode
