import GradidoNode.Exceptions
import GradidoNode.Library.FixedWidth

/-!
# Files held in memory

A buffer with a cursor that never passes its end. Reading and writing move the
cursor; running beyond the buffer throws and leaves everything as it was.
-/

namespace GradidoNode

open Library

structure VirtualFile where
  buffer : List UInt8
  cursor : Nat
  cursor_le : cursor ≤ buffer.length
  deriving DecidableEq

namespace VirtualFile

/-- The whole content of a file on disk, read from its start. -/
def ofBuffer (buffer : List UInt8) : VirtualFile := ⟨buffer, 0, Nat.zero_le _⟩

def getSize (file : VirtualFile) : Nat := file.buffer.length

/-- The bytes behind the cursor. -/
def remaining (file : VirtualFile) : List UInt8 := file.buffer.drop file.cursor

def read (file : VirtualFile) (size : Nat) : Except Exception (List UInt8 × VirtualFile) :=
  if beyond : file.cursor + size > file.getSize then
    .error (.bufferOverflow "try more read than in buffer" file.getSize (file.cursor + size))
  else
    .ok ((file.buffer.drop file.cursor).take size,
      ⟨file.buffer, file.cursor + size, Nat.not_lt.mp beyond⟩)

/-- Read one machine word. -/
def readWord (Word : Type) [LittleEndian Word] (file : VirtualFile) :
    Except Exception (Word × VirtualFile) :=
  match file.read (LittleEndian.width Word) with
  | .ok (bytes, next) => .ok (LittleEndian.decode bytes, next)
  | .error exception => .error exception

@[simp] theorem remaining_ofBuffer (buffer : List UInt8) :
    (ofBuffer buffer).remaining = buffer := rfl

theorem length_remaining (file : VirtualFile) :
    file.remaining.length = file.getSize - file.cursor := List.length_drop

/-- Bytes are left exactly while the cursor is inside the file. -/
theorem cursor_lt_of_remaining {byte : UInt8} {rest : List UInt8} (file : VirtualFile)
    (left : file.remaining = byte :: rest) : file.cursor < file.getSize := by
  have length := file.length_remaining
  rw [left, List.length_cons] at length
  omega

/-- A successful read cuts the asked bytes off what remains. -/
theorem read_ok {file next : VirtualFile} {size : Nat} {bytes : List UInt8}
    (success : file.read size = .ok (bytes, next)) :
    bytes = file.remaining.take size ∧ next.remaining = file.remaining.drop size ∧
      size ≤ file.remaining.length := by
  simp only [read] at success
  split at success
  · cases success
  · rename_i fits
    cases success
    refine ⟨rfl, ?_, ?_⟩
    · simp only [remaining, List.drop_drop]
    · rw [length_remaining]
      omega

theorem length_of_read {file next : VirtualFile} {size : Nat} {bytes : List UInt8}
    (success : file.read size = .ok (bytes, next)) : bytes.length = size := by
  obtain ⟨taken, _, enough⟩ := read_ok success
  rw [taken, List.length_take, Nat.min_eq_left enough]

theorem read_of_remaining {file : VirtualFile} {bytes rest : List UInt8}
    (left : file.remaining = bytes ++ rest) :
    ∃ next, file.read bytes.length = .ok (bytes, next) ∧ next.remaining = rest := by
  have enough : bytes.length ≤ file.remaining.length := by
    rw [left, List.length_append]
    omega
  cases outcome : file.read bytes.length with
  | error exception =>
      simp only [read] at outcome
      split at outcome
      · rename_i beyond
        have bounded := file.cursor_le
        rw [length_remaining] at enough
        rw [getSize] at beyond enough
        omega
      · cases outcome
  | ok result =>
      obtain ⟨taken, next⟩ := result
      obtain ⟨takenEq, nextEq, _⟩ := read_ok outcome
      rw [left, List.take_left] at takenEq
      rw [left, List.drop_left] at nextEq
      exact ⟨next, by rw [takenEq], nextEq⟩

/-- A word read at its own encoding is that word. -/
theorem readWord_of_remaining {Word : Type} [LittleEndian Word] {file : VirtualFile}
    {word : Word} {rest : List UInt8}
    (left : file.remaining = LittleEndian.encode word ++ rest) :
    ∃ next, file.readWord Word = .ok (word, next) ∧ next.remaining = rest := by
  obtain ⟨next, taken, restEq⟩ := read_of_remaining left
  rw [LittleEndian.length_encode] at taken
  refine ⟨next, ?_, restEq⟩
  simp only [readWord, taken, LittleEndian.decode_encode]

/-! ## Writing -/

/-- `malloc`, which does not clear what it hands out. -/
abbrev Allocator := (size : Nat) → { bytes : List UInt8 // bytes.length = size }

/-- The constructor that allocates the buffer. -/
def ofSize (malloc : Allocator) (bufferSize : Nat) : VirtualFile := ofBuffer (malloc bufferSize).1

def write (file : VirtualFile) (src : List UInt8) : Except Exception VirtualFile :=
  if beyond : file.cursor + src.length > file.getSize then
    .error (.bufferOverflow "try more write than in buffer" file.getSize
      (file.cursor + src.length))
  else
    .ok {
      buffer := file.buffer.take file.cursor ++ src ++ file.buffer.drop (file.cursor + src.length)
      cursor := file.cursor + src.length
      cursor_le := by
        have inside := Nat.not_lt.mp beyond
        rw [getSize] at inside
        rw [List.length_append, List.length_append, List.length_take, List.length_drop]
        omega }

/-- What `writeToFile` puts into the file: the buffer up to the cursor. -/
def content (file : VirtualFile) : List UInt8 := file.buffer.take file.cursor

@[simp] theorem content_ofBuffer (buffer : List UInt8) : (ofBuffer buffer).content = [] := rfl

@[simp] theorem getSize_ofSize (malloc : Allocator) (bufferSize : Nat) :
    (ofSize malloc bufferSize).getSize = bufferSize := (malloc bufferSize).2

theorem length_content (file : VirtualFile) : file.content.length = file.cursor :=
  List.length_take_of_le file.cursor_le

/-- While there is room, writing appends to the content and keeps the buffer's size. -/
theorem exists_write {file : VirtualFile} {src : List UInt8}
    (room : file.content.length + src.length ≤ file.getSize) :
    ∃ next, file.write src = .ok next ∧ next.content = file.content ++ src ∧
      next.getSize = file.getSize := by
  rw [length_content] at room
  refine ⟨_, dif_neg (Nat.not_lt.mpr room), ?_, ?_⟩
  · have width : (file.buffer.take file.cursor ++ src).length = file.cursor + src.length := by
      rw [List.length_append, List.length_take_of_le file.cursor_le]
    exact List.take_left' width
  · rw [getSize] at room
    simp only [getSize, List.length_append, List.length_take, List.length_drop]
    omega

/-- Writing field after field appends all of them. -/
theorem exists_foldlM_write {file : VirtualFile} {fields : List (List UInt8)}
    (room : file.content.length + fields.flatten.length ≤ file.getSize) :
    ∃ next, fields.foldlM write file = .ok next ∧ next.content = file.content ++ fields.flatten ∧
      next.getSize = file.getSize := by
  induction fields generalizing file with
  | nil => exact ⟨file, rfl, (List.append_nil _).symm, rfl⟩
  | cons field rest ih =>
      rw [List.flatten_cons, List.length_append] at room
      have fieldRoom : file.content.length + field.length ≤ file.getSize := by omega
      obtain ⟨middle, written, content, size⟩ := exists_write fieldRoom
      have restRoom : middle.content.length + rest.flatten.length ≤ middle.getSize := by
        rw [content, size, List.length_append]
        omega
      obtain ⟨next, restWritten, restContent, restSize⟩ := ih restRoom
      refine ⟨next, ?_, ?_, restSize.trans size⟩
      · rw [List.foldlM_cons, written]
        exact restWritten
      · rw [restContent, content, List.flatten_cons, List.append_assoc]

end VirtualFile

end GradidoNode
