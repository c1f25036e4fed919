import GradidoNode.Exceptions
import Mathlib.Logic.Function.Basic

/-!
# File locks

A flag for each path. It is set and cleared by hand, and has no owner.
-/

namespace GradidoNode

open Library

/-- `FileLockManager`. -/
structure FileLockManager where
  /-- The flags of the files that were asked for. -/
  files : String → Option Bool

namespace FileLockManager

def new : FileLockManager where
  files := fun _ => none

def insert (file : String) (locked : Bool) (manager : FileLockManager) : FileLockManager where
  files := Function.update manager.files file (some locked)

def tryLock (file : String) (manager : FileLockManager) : Bool × FileLockManager :=
  match manager.files file with
  | some true => (false, manager)
  | _ => (true, manager.insert file true)

/-- The loop of `tryLockTimeout`, while nobody unlocks the file. -/
def tryLockRounds (file : String) : Nat → FileLockManager → Bool × FileLockManager
  | 0, manager => (false, manager)
  | timeoutRounds + 1, manager =>
      if (manager.tryLock file).1 then (true, (manager.tryLock file).2)
      else tryLockRounds file timeoutRounds (manager.tryLock file).2

def tryLockTimeout (file : String) (tryCount : Nat) : Throwing FileLockManager Bool :=
  fun manager =>
    let tried := manager.tryLockRounds file tryCount
    if !tried.1 then (.error (.lockException "couldn't lock file" file), tried.2)
    else (.ok true, tried.2)

def unlock (file : String) : Throwing FileLockManager Unit := fun manager =>
  (.ok (), manager.insert file false)

/-- No file is locked. -/
def AllFree (manager : FileLockManager) : Prop := ∀ file, manager.files file ≠ some true

theorem allFree_new : new.AllFree := fun _ => nofun

variable {file : String} {manager : FileLockManager}

/-- A file that is free is locked in the first round. -/
theorem tryLockTimeout_of_free (free : manager.files file ≠ some true) (tryCount : Nat) :
    tryLockTimeout file (tryCount + 1) manager = (.ok true, manager.insert file true) := by
  have locked : manager.tryLock file = (true, manager.insert file true) := by
    unfold tryLock
    split
    · rename_i isLocked
      exact absurd isLocked free
    · rfl
  simp [tryLockTimeout, tryLockRounds, locked]

/-- A file that stays locked is given up. -/
theorem tryLockTimeout_of_locked (locked : manager.files file = some true) (tryCount : Nat) :
    tryLockTimeout file tryCount manager =
      (.error (.lockException "couldn't lock file" file), manager) := by
  have failed : manager.tryLock file = (false, manager) := by
    unfold tryLock
    rw [locked]
  have rounds : manager.tryLockRounds file tryCount = (false, manager) := by
    induction tryCount with
    | zero => rfl
    | succ tryCount ih => simp [tryLockRounds, failed, ih]
  simp [tryLockTimeout, rounds]

/-- A lock that was taken and given back leaves all files free. -/
theorem AllFree.unlock_insert (free : manager.AllFree) (file : String) :
    (unlock file (manager.insert file true)).2.AllFree := by
  intro other locked
  by_cases same : other = file
  · subst same
    simp [unlock, insert] at locked
  · apply free other
    simpa [unlock, insert, Function.update_of_ne same] using locked

theorem not_allFree_insert (file : String) (manager : FileLockManager) :
    ¬ (manager.insert file true).AllFree :=
  fun free => free file (Function.update_self ..)

end FileLockManager

end GradidoNode
