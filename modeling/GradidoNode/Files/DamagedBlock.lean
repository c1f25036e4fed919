import GradidoNode.Files.RebuildBlockIndex

/-!
# Reading damaged block files

Three walks over records behind a size: `readLine` checks the end of a record without
its size field, `rebuildBlockIndex` goes from line to line through `readLine`, and
`calculateHash` checks nothing.
-/

namespace GradidoNode

open Library

namespace Files

namespace Block

/-- The bytes in front of the trailing hash. -/
def content (file : Block) : List UInt8 := file.disk.take file.currentFileSize.toNat

/-- The `transactionSize` read at a position. -/
def transactionSize (file : Block) (startReading : UInt32) : UInt16 :=
  LittleEndian.decode ((file.disk.drop startReading.toNat).take 2)

/-- The returned line is a record that lies completely in front of the trailing hash,
its size field included. -/
structure RecordInside (file : Block) (startReading : UInt32) (line : List UInt8) : Prop where
  ends : startReading.toNat + 2 + (file.transactionSize startReading).toNat ≤
    file.currentFileSize.toNat
  cutOut : line = (file.content.drop (startReading.toNat + 2)).take
    (file.transactionSize startReading).toNat
  complete : line.length = (file.transactionSize startReading).toNat

/-- `readLine` throws or returns a record inside the content. -/
def ReadsInside (file : Block) (path : String) (startReading : UInt32) : Prop :=
  ∀ line, file.readLine path startReading = .ok line → file.RecordInside startReading line

/-- The record at a position passes the checks of `readLine`. Its end is compared as a
`uint32_t` and without the size field. -/
structure Admitted (file : Block) (startReading : UInt32) : Prop where
  minimal : minimalFileSize < file.currentFileSize.toNat
  starts : startReading.toNat + minimalFileSize ≤ file.currentFileSize.toNat
  ends : startReading.toNat + (file.transactionSize startReading).toNat ≤
      file.currentFileSize.toNat ∨
    2 ^ 32 ≤ startReading.toNat + (file.transactionSize startReading).toNat
  long : minimalFileSize ≤ (file.transactionSize startReading).toNat

/-- The record is admitted although it ends behind the content. -/
structure Overhangs (file : Block) (startReading : UInt32) : Prop
    extends file.Admitted startReading where
  behind : file.currentFileSize.toNat <
    startReading.toNat + 2 + (file.transactionSize startReading).toNat

/-- The comparison of `readLine` lets through what ends in the content and what wraps around. -/
theorem end_le_iff {file : Block} {startReading : UInt32}
    (starts : startReading.toNat + minimalFileSize ≤ file.currentFileSize.toNat) :
    ¬ startReading + (file.transactionSize startReading).toUInt32 > file.currentFileSize ↔
      startReading.toNat + (file.transactionSize startReading).toNat ≤
          file.currentFileSize.toNat ∨
        2 ^ 32 ≤ startReading.toNat + (file.transactionSize startReading).toNat := by
  have sizeBounded := file.currentFileSize.toNat_lt
  have fieldBounded := (file.transactionSize startReading).toNat_lt
  rw [gt_iff_lt, UInt32.lt_iff_toNat_lt, UInt32.toNat_add, UInt16.toNat_toUInt32]
  by_cases wraps : 2 ^ 32 ≤ startReading.toNat + (file.transactionSize startReading).toNat
  · rw [Nat.mod_eq_sub_mod wraps, Nat.mod_eq_of_lt (by omega)]
    omega
  · rw [Nat.mod_eq_of_lt (Nat.not_le.mp wraps)]
    omega

/-- What `readLine` returns, and when. -/
theorem readLine_eq_ok_iff {file : Block} {path : String} {startReading : UInt32}
    {line : List UInt8} :
    file.readLine path startReading = .ok line ↔
      file.Admitted startReading ∧
        line = (file.disk.drop (startReading.toNat + 2)).take
          (file.transactionSize startReading).toNat := by
  unfold readLine
  by_cases minimal : file.currentFileSize.toNat ≤ minimalFileSize
  · rw [if_pos minimal]
    exact ⟨nofun, fun admitted => absurd admitted.1.minimal (Nat.not_lt.mpr minimal)⟩
  rw [if_neg minimal]
  by_cases starts : startReading.toNat > file.currentFileSize.toNat - minimalFileSize
  · rw [if_pos starts]
    exact ⟨nofun, fun admitted => absurd admitted.1.starts (by omega)⟩
  rw [if_neg starts]
  have inside : startReading.toNat + minimalFileSize ≤ file.currentFileSize.toNat := by omega
  have ends := end_le_iff inside
  unfold transactionSize at ends ⊢
  dsimp only
  by_cases behind : startReading + (LittleEndian.decode
      ((file.disk.drop startReading.toNat).take 2) : UInt16).toUInt32 > file.currentFileSize
  · rw [if_pos behind]
    exact ⟨nofun, fun admitted => absurd behind (ends.mpr admitted.1.ends)⟩
  rw [if_neg behind]
  by_cases short : (LittleEndian.decode
      ((file.disk.drop startReading.toNat).take 2) : UInt16).toNat < minimalFileSize
  · rw [if_pos short]
    exact ⟨nofun, fun admitted => absurd admitted.1.long (Nat.not_le.mpr short)⟩
  rw [if_neg short]
  constructor
  · intro returned
    cases returned
    exact ⟨⟨Nat.not_le.mp minimal, inside, ends.mp behind, Nat.not_lt.mp short⟩, rfl⟩
  · rintro ⟨_, rfl⟩
    rfl

/-- A record that ends in the content is cut out of it in full. -/
theorem recordInside_of_ends {file : Block} {startReading : UInt32}
    (sized : file.currentFileSize.toNat ≤ file.disk.length)
    (ends : startReading.toNat + 2 + (file.transactionSize startReading).toNat ≤
      file.currentFileSize.toNat) :
    file.RecordInside startReading ((file.disk.drop (startReading.toNat + 2)).take
      (file.transactionSize startReading).toNat) := by
  refine ⟨ends, ?_, ?_⟩
  · rw [content, List.drop_take, List.take_take, Nat.min_eq_left (by omega)]
  · rw [List.length_take, List.length_drop]
    omega

theorem readsInside_iff {file : Block} (path : String) (startReading : UInt32)
    (sized : file.currentFileSize.toNat ≤ file.disk.length) :
    file.ReadsInside path startReading ↔ ¬ file.Overhangs startReading := by
  constructor
  · intro inside overhangs
    have record := inside _ (readLine_eq_ok_iff.mpr ⟨overhangs.toAdmitted, rfl⟩)
    exact absurd record.ends (Nat.not_le.mpr overhangs.behind)
  · intro fits line returned
    obtain ⟨admitted, rfl⟩ := readLine_eq_ok_iff.mp returned
    refine recordInside_of_ends sized (Nat.not_lt.mp fun behind => fits ⟨admitted, behind⟩)

/-- The condition of the loop of `rebuildBlockIndex`. -/
def RebuildState.GoesOn (file : Block) (state : RebuildState) : Prop :=
  state.fileCursor.toInt64.toUInt64 + 27 ≤ file.currentFileSize.toUInt64

/-- A cursor that has become negative is either far behind the content, or so close to
zero that `readLine` rejects it. -/
theorem readLine_of_negative {file : Block} {path : String} {state : RebuildState}
    (negative : 2 ^ 31 ≤ state.fileCursor.toUInt32.toNat) (goesOn : state.GoesOn file) :
    ∃ exception, file.readLine path state.fileCursor.toUInt32 = .error exception := by
  cases found : file.readLine path state.fileCursor.toUInt32 with
  | error exception => exact ⟨exception, rfl⟩
  | ok line =>
      have starts := (readLine_eq_ok_iff.mp found).1.starts
      have sizeBounded := file.currentFileSize.toNat_lt
      have reached := goesOn
      unfold minimalFileSize at starts
      rw [RebuildState.GoesOn, UInt64.le_iff_toNat_le, UInt64.toNat_add, toNat_signExtended,
        if_neg (Nat.not_lt.mpr negative), UInt32.toNat_toUInt64] at reached
      change (_ + 27) % 2 ^ 64 ≤ _ at reached
      rw [Nat.mod_eq_of_lt (by omega)] at reached
      omega

theorem goesOn_of_nonnegative {file : Block} {state : RebuildState}
    (nonnegative : state.fileCursor.toUInt32.toNat < 2 ^ 31) (goesOn : state.GoesOn file) :
    state.fileCursor.toUInt32.toNat + 27 ≤ file.currentFileSize.toNat := by
  rw [RebuildState.GoesOn, UInt64.le_iff_toNat_le, UInt64.toNat_add, toNat_signExtended,
    if_pos nonnegative, UInt32.toNat_toUInt64] at goesOn
  change (_ + 27) % 2 ^ 64 ≤ _ at goesOn
  rwa [Nat.mod_eq_of_lt (by omega)] at goesOn

/-- Every round moves the cursor on, and a cursor that wrapped around ends the loop. -/
theorem rebuildLoop_ends (genericHash : List UInt8 → Digest) (path : String) (file : Block)
    {fuel : Nat} {state final : RebuildState}
    (enough : file.currentFileSize.toNat ≤ state.fileCursor.toUInt32.toNat + fuel)
    (some : 2 ^ 31 ≤ state.fileCursor.toUInt32.toNat → 0 < fuel)
    (ended : rebuildLoop genericHash path file fuel state = .ok final) :
    ¬ final.GoesOn file := by
  induction fuel generalizing state with
  | zero =>
      cases ended
      intro goesOn
      have nonnegative : final.fileCursor.toUInt32.toNat < 2 ^ 31 :=
        Nat.lt_of_not_le fun negative => Nat.lt_irrefl 0 (some negative)
      have inside := goesOn_of_nonnegative nonnegative goesOn
      omega
  | succ fuel ih =>
      rw [rebuildLoop] at ended
      by_cases goesOn : state.GoesOn file
      · have continues : state.fileCursor.toInt64.toUInt64 + 27 ≤ file.currentFileSize.toUInt64 :=
          goesOn
        rw [if_pos continues] at ended
        by_cases negative : 2 ^ 31 ≤ state.fileCursor.toUInt32.toNat
        · obtain ⟨exception, thrown⟩ := @readLine_of_negative file path state negative goesOn
          rw [thrown] at ended
          cases ended
        · have nonnegative := Nat.lt_of_not_le negative
          have inside := goesOn_of_nonnegative nonnegative goesOn
          cases found : file.readLine path state.fileCursor.toUInt32 with
          | error exception =>
              rw [found] at ended
              cases ended
          | ok line =>
              rw [found] at ended
              have short : line.length < 2 ^ 16 := by
                rw [(readLine_eq_ok_iff.mp found).2, List.length_take]
                exact Nat.lt_of_le_of_lt (Nat.min_le_left _ _) (UInt16.toNat_lt _)
              have moved : (state.fileCursor.toUInt32 +
                  UInt32.ofNat (line.length + 2)).toInt32.toUInt32.toNat =
                    state.fileCursor.toUInt32.toNat + (line.length + 2) := by
                change (state.fileCursor.toUInt32 + UInt32.ofNat (line.length + 2)).toNat = _
                rw [UInt32.toNat_add, UInt32.toNat_ofNat',
                  Nat.mod_eq_of_lt (by omega : line.length + 2 < 2 ^ 32)]
                exact Nat.mod_eq_of_lt (by omega)
              refine ih ?_ ?_ ended
              · dsimp only
                rw [moved]
                omega
              · intro _
                omega
      · have stops : ¬ state.fileCursor.toInt64.toUInt64 + 27 ≤ file.currentFileSize.toUInt64 :=
          goesOn
        rw [if_neg stops] at ended
        cases ended
        exact goesOn

section CalculateHash

/-- What `calculateHash` comes to. -/
inductive HashOutcome
  | nullptr
  | hash (hash : Digest)
  /-- A `memcpy` or a hash step reads behind the buffer. -/
  | outOfBounds
  deriving DecidableEq

variable (genericHash : List UInt8 → Digest)

/-- The bytes read from a buffer, or none if the read leaves it. -/
def readBuffer (vfile : List UInt8) (cursor count : Nat) : Option (List UInt8) :=
  if cursor + count ≤ vfile.length then some ((vfile.drop cursor).take count) else none

/-- The loop of `calculateHash` over its buffer. Every round reads a size field, so the
size of the buffer is fuel enough. -/
def hashLoop (vfile : List UInt8) : Nat → Nat → Digest → HashOutcome
  | 0, _, hash => .hash hash
  | fuel + 1, cursor, hash =>
      if cursor < vfile.length then
        match readBuffer vfile cursor 2 with
        | none => .outOfBounds
        | some field =>
            let size : UInt16 := LittleEndian.decode field
            match readBuffer vfile (cursor + 2) size.toNat with
            | none => .outOfBounds
            | some data =>
                hashLoop vfile fuel (cursor + 2 + size.toNat)
                  (calculateOneHashStep genericHash hash data)
      else .hash hash

/-- `Block::calculateHash`. `allocated` is what the new array `hash` holds. -/
def calculateHash (allocated : Digest) (file : Block) : HashOutcome :=
  if file.currentFileSize = 0 then .nullptr
  else hashLoop genericHash file.content file.content.length 0 allocated

/-- The content is a sequence of complete records. -/
def Framed (content : List UInt8) : Prop :=
  ∃ lines : List (List UInt8), (∀ line ∈ lines, line.length < 2 ^ 16) ∧
    content = encodeLines lines

theorem framed_nil : Framed [] := ⟨[], nofun, rfl⟩

/-- A nonempty content is framed exactly if its first record is complete and the rest is framed. -/
theorem framed_iff {content : List UInt8} (nonempty : content ≠ []) :
    Framed content ↔
      2 ≤ content.length ∧
        2 + (LittleEndian.decode (content.take 2) : UInt16).toNat ≤ content.length ∧
        Framed (content.drop (2 + (LittleEndian.decode (content.take 2) : UInt16).toNat)) := by
  constructor
  · rintro ⟨lines, short, rfl⟩
    cases lines with
    | nil => exact absurd rfl nonempty
    | cons line rest =>
        have width : (LittleEndian.encode (UInt16.ofNat line.length)).length = 2 :=
          LittleEndian.length_encode (UInt16.ofNat line.length)
        have size : (UInt16.ofNat line.length).toNat = line.length :=
          Nat.mod_eq_of_lt (short line (List.mem_cons_self ..))
        have field : (encodeLines (line :: rest)).take 2 =
            LittleEndian.encode (UInt16.ofNat line.length) := by
          rw [encodeLines_cons, List.append_assoc]
          exact List.take_left' width
        rw [field, LittleEndian.decode_encode, size, length_encodeLines_cons]
        refine ⟨by omega, by omega, rest, ?_, ?_⟩
        · exact fun other member => short other (List.mem_cons_of_mem _ member)
        · rw [encodeLines_cons, ← width, ← List.length_append]
          exact List.drop_left
  · rintro ⟨field, complete, rest, short, framed⟩
    generalize size : (LittleEndian.decode (content.take 2) : UInt16) = transactionSize at *
    have width : (content.take 2).length = 2 := by
      rw [List.length_take]
      omega
    have line : ((content.drop 2).take transactionSize.toNat).length = transactionSize.toNat := by
      rw [List.length_take, List.length_drop]
      omega
    refine ⟨(content.drop 2).take transactionSize.toNat :: rest, ?_, ?_⟩
    · refine List.forall_mem_cons.mpr ⟨?_, short⟩
      rw [line]
      exact transactionSize.toNat_lt
    · rw [encodeLines_cons, line, UInt16.ofNat_toNat, ← size,
        LittleEndian.encode_decode_UInt16 width, size, ← framed, ← List.drop_drop,
        List.append_assoc, List.take_append_drop, List.take_append_drop]

/-- The loop stays in its buffer exactly if records are framed from its cursor on. -/
theorem hashLoop_ne_outOfBounds_iff (vfile : List UInt8) {fuel cursor : Nat} (hash : Digest)
    (enough : vfile.length ≤ cursor + fuel) :
    hashLoop genericHash vfile fuel cursor hash ≠ .outOfBounds ↔
      Framed (vfile.drop cursor) := by
  induction fuel generalizing cursor hash with
  | zero =>
      rw [List.drop_eq_nil_of_le (Nat.add_zero cursor ▸ enough), hashLoop]
      exact ⟨fun _ => framed_nil, fun _ => nofun⟩
  | succ fuel ih =>
      rw [hashLoop]
      by_cases inside : cursor < vfile.length
      · have nonempty : vfile.drop cursor ≠ [] := by
          rw [Ne, List.drop_eq_nil_iff]
          omega
        rw [if_pos inside, framed_iff nonempty, List.length_drop, List.drop_drop]
        by_cases field : cursor + 2 ≤ vfile.length
        · rw [readBuffer, if_pos field]
          dsimp only
          generalize (LittleEndian.decode ((vfile.drop cursor).take 2) : UInt16) = size
          by_cases complete : cursor + 2 + size.toNat ≤ vfile.length
          · rw [readBuffer, if_pos complete]
            dsimp only
            rw [ih _ (by omega), Nat.add_assoc]
            exact ⟨fun framed => ⟨by omega, by omega, framed⟩, fun framed => framed.2.2⟩
          · rw [readBuffer, if_neg complete]
            exact ⟨fun stays => absurd rfl stays, fun framed => absurd framed.2.1 (by omega)⟩
        · rw [readBuffer, if_neg field]
          exact ⟨fun stays => absurd rfl stays, fun framed => absurd framed.1 (by omega)⟩
      · rw [if_neg inside, List.drop_eq_nil_of_le (Nat.le_of_not_lt inside)]
        exact ⟨fun _ => framed_nil, fun _ => nofun⟩

theorem calculateHash_ne_outOfBounds_iff (allocated : Digest) (file : Block) :
    calculateHash genericHash allocated file ≠ .outOfBounds ↔ Framed file.content := by
  unfold calculateHash
  by_cases empty : file.currentFileSize = 0
  · rw [if_pos empty, content, empty]
    exact ⟨fun _ => framed_nil, fun _ => nofun⟩
  · rw [if_neg empty, hashLoop_ne_outOfBounds_iff genericHash _ _ (by omega), List.drop_zero]

end CalculateHash

/-- The locals of `rebuildBlockIndex` in front of its loop. -/
def RebuildState.start (file : Block) : RebuildState where
  fileCursor := 0
  position := file.disk.length
  hash := Digest.zero
  pendingLines := []

/-- Of the three walks over a damaged file `rebuildBlockIndex` always ends, `readLine`
stays inside the content exactly at positions where no record overhangs it, and
`calculateHash` stays in its buffer exactly if the content is framed. -/
theorem staysInside_iff (genericHash : List UInt8 → Digest) (allocated : Digest) (path : String)
    (file : Block) (sized : file.currentFileSize.toNat ≤ file.disk.length) :
    (∀ startReading, file.ReadsInside path startReading ↔ ¬ file.Overhangs startReading) ∧
      (∀ final, rebuildLoop genericHash path file file.disk.length (.start file) = .ok final →
        ¬ final.GoesOn file) ∧
      (calculateHash genericHash allocated file ≠ .outOfBounds ↔ Framed file.content) := by
  refine ⟨fun startReading => readsInside_iff path startReading sized, ?_,
    calculateHash_ne_outOfBounds_iff genericHash allocated file⟩
  intro final ended
  have atStart : (RebuildState.start file).fileCursor.toUInt32.toNat = 0 := rfl
  refine rebuildLoop_ends genericHash path file ?_ (fun negative => ?_) ended
  · rw [atStart, Nat.zero_add]
    exact sized
  · rw [atStart] at negative
    exact absurd negative (by decide)

section Example

/-- One whole record of 27 bytes in front of the hash. -/
def wholeFile : Block := new ([27, 0] ++ List.replicate 27 5 ++ List.replicate 32 7)

/-- A size field that has become one too large. -/
def damagedFile : Block := new ([28, 0] ++ List.replicate 27 5 ++ List.replicate 32 7)

/-- A walk over the whole file of one line. -/
theorem staysInside_wholeFile :
    wholeFile.ReadsInside "blk00000001.dat" 0 ∧
      calculateHash (fun _ => Digest.zero) Digest.zero wholeFile ≠ .outOfBounds := by
  have stays := staysInside_iff (fun _ => Digest.zero) Digest.zero "blk00000001.dat" wholeFile
    (by decide)
  refine ⟨(stays.1 0).mpr fun overhangs => absurd overhangs.behind (by decide),
    stays.2.2.mpr ⟨[List.replicate 27 5], by decide, by decide⟩⟩

/-- The last byte that is returned is the first one of the hash, and the hash is
calculated from a byte behind the buffer. -/
theorem not_staysInside_damagedFile :
    damagedFile.readLine "blk00000001.dat" 0 = .ok (List.replicate 27 5 ++ [7]) ∧
      ¬ damagedFile.ReadsInside "blk00000001.dat" 0 ∧
      calculateHash (fun _ => Digest.zero) Digest.zero damagedFile = .outOfBounds := by
  have returned : damagedFile.readLine "blk00000001.dat" 0 =
      .ok (List.replicate 27 5 ++ [7]) := by rfl
  refine ⟨returned, fun inside => ?_, by decide⟩
  exact absurd (inside _ returned).ends (by decide)

end Example

end Block

end Files

end GradidoNode
