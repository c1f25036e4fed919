import GradidoNode.Lib.FuzzyTimer
import GradidoNode.Library.Run
import Mathlib.Data.String.Basic

/-!
# Blocks registered at the timer

Both kinds of blocks register themselves under a name when they are constructed and remove
what is registered under a name when they are destroyed. A cached block removes another
name than it has registered.
-/

namespace GradidoNode

open Library

namespace Cache

/-- `cache::Block` and `model::files::Block`. -/
inductive BlockKind
  | cacheBlock
  | fileBlock
  deriving DecidableEq

/-- A constructed block. The path is `mBlockPath`, for a cached block that of its file. -/
structure BlockObject where
  kind : BlockKind
  blockPath : String
  deriving DecidableEq

namespace BlockObject

/-- The name in the constructor. -/
def registeredName (object : BlockObject) : String :=
  match object.kind with
  | .cacheBlock => "cache::" ++ object.blockPath
  | .fileBlock => "model::file::" ++ object.blockPath

/-- The name in the destructor. -/
def removedName (object : BlockObject) : String :=
  match object.kind with
  | .cacheBlock => "controller::" ++ object.blockPath
  | .fileBlock => "model::file::" ++ object.blockPath

/-- No path makes the two names of a cached block meet. -/
theorem cache_ne_controller (first second : String) :
    "cache::" ++ first ≠ "controller::" ++ second := by
  intro same
  have letters := congrArg (fun name : String => name.toList.take 2) same
  simp [String.toList_append] at letters

end BlockObject

/-- The blocks that live, by the numbers under which they were constructed. -/
structure BlockTimers where
  timer : FuzzyTimer
  objects : List (Nat × BlockObject)
  nextObject : Nat

/-- Constructions, destructions and ticks, with the time and the answer of the callback. -/
inductive TimerEvent
  | construct (object : BlockObject) (now : Int)
  | destroy (number : Nat)
  | move (now : Int) (answer : TimerReturn)

namespace BlockTimers

def start : BlockTimers where
  timer := .new
  objects := []
  nextObject := 0

/-- The blocks other than the one that is destroyed. -/
def without (number : Nat) (objects : List (Nat × BlockObject)) : List (Nat × BlockObject) :=
  objects.filter fun object => object.1 ≠ number

/-- One event; `timeoutCheck` is `g_TimeoutCheck`. -/
def step (timeoutCheck : Int) (blocks : BlockTimers) : TimerEvent → Option BlockTimers
  | .construct object now => some {
      timer := (blocks.timer.addTimer object.registeredName (some blocks.nextObject) timeoutCheck
        (-1) now).2
      objects := blocks.objects ++ [(blocks.nextObject, object)]
      nextObject := blocks.nextObject + 1 }
  | .destroy number =>
      match blocks.objects.find? fun object => object.1 = number with
      | none => none
      | some (_, object) => some { blocks with
          timer := (blocks.timer.removeTimer object.removedName).2
          objects := without number blocks.objects }
  | .move now answer => some { blocks with timer := (blocks.timer.move now answer).2 }

/-- Every registered entry refers to a block that has not been destroyed. -/
def NoDangling (blocks : BlockTimers) : Prop :=
  ∀ entry ∈ blocks.timer.registeredAtTimer.values, ∀ number, entry.callback = some number →
    ∃ object, (number, object) ∈ blocks.objects

/-- A cached block is destroyed while no entry of it is registered. -/
def DestroyedUnregistered (blocks : BlockTimers) : TimerEvent → Prop
  | .construct _ _ => True
  | .destroy number => ∀ object, (number, object) ∈ blocks.objects →
      object.kind = .cacheBlock →
        ∀ entry ∈ blocks.timer.registeredAtTimer.values, entry.callback ≠ some number
  | .move _ _ => True

/-- Every entry has the name of the living block it refers to. -/
structure Named (blocks : BlockTimers) : Prop where
  running : blocks.timer.exit = false
  entries : ∀ entry ∈ blocks.timer.registeredAtTimer.values, ∃ number object,
    entry.callback = some number ∧ (number, object) ∈ blocks.objects ∧
      entry.name = object.registeredName
  numbers : ∀ object ∈ blocks.objects, object.1 < blocks.nextObject
  unique : ∀ number object other, (number, object) ∈ blocks.objects →
    (number, other) ∈ blocks.objects → object = other

variable {timeoutCheck : Int} {blocks next : BlockTimers}

theorem Named.noDangling (named : Named blocks) : NoDangling blocks := by
  intro entry member number refers
  obtain ⟨other, object, isCallback, alive, _⟩ := named.entries entry member
  cases refers.symm.trans isCallback
  exact ⟨object, alive⟩

theorem named_start : Named start where
  running := rfl
  entries := nofun
  numbers := nofun
  unique := nofun

theorem mem_without {number : Nat} {objects : List (Nat × BlockObject)} {other : Nat × BlockObject} :
    other ∈ without number objects ↔ other ∈ objects ∧ other.1 ≠ number := by
  rw [without, List.mem_filter, decide_eq_true_iff]

/-- What a destruction does, to a block that lives. -/
theorem destroy_cases {number : Nat} (taken : blocks.step timeoutCheck (.destroy number) = some next) :
    ∃ object, (number, object) ∈ blocks.objects ∧
      next = { blocks with
        timer := (blocks.timer.removeTimer object.removedName).2
        objects := without number blocks.objects } := by
  unfold step at taken
  dsimp only at taken
  split at taken
  · cases taken
  · rename_i found object isFound
    cases taken
    have same := List.find?_some isFound
    simp only [decide_eq_true_eq] at same
    exact ⟨object, same ▸ List.mem_of_find?_eq_some isFound, rfl⟩

theorem Named.construct {object : BlockObject} {now : Int} (named : Named blocks)
    (taken : blocks.step timeoutCheck (.construct object now) = some next) : Named next := by
  cases taken
  refine ⟨(FuzzyTimer.addTimer_exit ..).trans named.running, ?_, ?_, ?_⟩
  · intro entry member
    rcases FuzzyTimer.mem_addTimer member with rfl | old
    · exact ⟨blocks.nextObject, object, rfl,
        List.mem_append_right _ (List.mem_singleton_self _), rfl⟩
    · obtain ⟨number, other, isCallback, alive, name⟩ := named.entries entry old
      exact ⟨number, other, isCallback, List.mem_append_left _ alive, name⟩
  · intro other member
    rcases List.mem_append.mp member with old | new
    · exact Nat.lt_succ_of_lt (named.numbers other old)
    · cases List.mem_singleton.mp new
      exact Nat.lt_succ_self _
  · intro number first second isFirst isSecond
    have fresh (other : BlockObject) : (blocks.nextObject, other) ∉ blocks.objects :=
      fun member => Nat.lt_irrefl _ (named.numbers _ member)
    rcases List.mem_append.mp isFirst with oldFirst | newFirst
    · rcases List.mem_append.mp isSecond with oldSecond | newSecond
      · exact named.unique number first second oldFirst oldSecond
      · cases List.mem_singleton.mp newSecond
        exact absurd oldFirst (fresh first)
    · cases List.mem_singleton.mp newFirst
      rcases List.mem_append.mp isSecond with oldSecond | newSecond
      · exact absurd oldSecond (fresh second)
      · cases List.mem_singleton.mp newSecond
        rfl

/-- An entry that a destroyed block leaves behind is one of a cached block. -/
theorem Named.destroy {number : Nat} (named : Named blocks)
    (unregistered : blocks.DestroyedUnregistered (.destroy number))
    (taken : blocks.step timeoutCheck (.destroy number) = some next) : Named next := by
  obtain ⟨object, alive, rfl⟩ := destroy_cases taken
  refine ⟨(FuzzyTimer.removeTimer_exit ..).trans named.running, ?_, ?_, ?_⟩
  · intro entry member
    obtain ⟨old, otherName⟩ := (FuzzyTimer.mem_removeTimer named.running).mp member
    obtain ⟨other, owner, isCallback, ownerAlive, name⟩ := named.entries entry old
    have different : other ≠ number := by
      rintro rfl
      have isOwner := named.unique other owner object ownerAlive alive
      cases kind : object.kind with
      | cacheBlock => exact unregistered object alive kind entry old isCallback
      | fileBlock =>
          apply otherName
          rw [name, isOwner, BlockObject.registeredName, BlockObject.removedName, kind]
    exact ⟨other, owner, isCallback, mem_without.mpr ⟨ownerAlive, different⟩, name⟩
  · exact fun other member => named.numbers other (mem_without.mp member).1
  · intro other first second isFirst isSecond
    exact named.unique other first second (mem_without.mp isFirst).1 (mem_without.mp isSecond).1

theorem Named.move {now : Int} {answer : TimerReturn} (named : Named blocks)
    (taken : blocks.step timeoutCheck (.move now answer) = some next) : Named next := by
  cases taken
  refine ⟨(FuzzyTimer.move_exit ..).trans named.running, ?_, named.numbers, named.unique⟩
  intro entry member
  obtain ⟨before, registered, sameCallback, sameName⟩ := FuzzyTimer.exists_of_mem_move member
  obtain ⟨number, object, isCallback, alive, name⟩ := named.entries before registered
  exact ⟨number, object, sameCallback.trans isCallback, alive, sameName.trans name⟩

/-- The name that a cached block removes is not the one its entry has. -/
theorem unregistered_of_noDangling {event : TimerEvent} (named : Named blocks)
    (clean : ∀ next, blocks.step timeoutCheck event = some next → NoDangling next) :
    blocks.DestroyedUnregistered event := by
  cases event with
  | construct object now => trivial
  | move now answer => trivial
  | destroy number =>
      intro object alive kind entry registered refers
      cases taken : blocks.step timeoutCheck (.destroy number) with
      | none =>
          unfold step at taken
          dsimp only at taken
          split at taken
          · rename_i notFound
            have isOther := List.find?_eq_none.mp notFound (number, object) alive
            exact isOther (decide_eq_true rfl)
          · cases taken
      | some after =>
          have left := clean after taken
          obtain ⟨found, foundAlive, rfl⟩ := destroy_cases taken
          have isFound := named.unique number found object foundAlive alive
          obtain ⟨other, owner, isCallback, ownerAlive, name⟩ := named.entries entry registered
          cases refers.symm.trans isCallback
          have isOwner := named.unique number owner object ownerAlive alive
          have kept : entry ∈
              (blocks.timer.removeTimer found.removedName).2.registeredAtTimer.values := by
            refine (FuzzyTimer.mem_removeTimer named.running).mpr ⟨registered, ?_⟩
            rw [name, isOwner, isFound, BlockObject.registeredName, BlockObject.removedName, kind]
            exact BlockObject.cache_ne_controller _ _
          obtain ⟨_, stillAlive⟩ := left entry kept number refers
          exact (mem_without.mp stillAlive).2 rfl

/-- In a sequence of constructions, destructions and ticks no entry ever dangles if and only
if every cached block is destroyed while no entry of it is registered. -/
theorem noDangling_iff_destroyedUnregistered (timeoutCheck : Int) (events : List TimerEvent) :
    (∀ first rest reached, events = first ++ rest →
      runEvents (step timeoutCheck) first start = some reached → NoDangling reached) ↔
    StepsMeet (step timeoutCheck) DestroyedUnregistered events start := by
  have stable : ∀ blocks event next, Named blocks → DestroyedUnregistered blocks event →
      step timeoutCheck blocks event = some next → Named next := by
    intro blocks event next named unregistered taken
    cases event with
    | construct object now => exact named.construct taken
    | destroy number => exact named.destroy unregistered taken
    | move now answer => exact named.move taken
  exact good_iff_stepsMeet stable (fun _ named => named.noDangling)
    (fun _ _ named clean => unregistered_of_noDangling named clean) events named_start

/-- A cached block that is destroyed before a tick has removed its entry. -/
theorem not_noDangling_destroyed :
    ¬ ∀ first rest reached,
      [TimerEvent.construct { kind := .fileBlock, blockPath := "/blk00000001.dat" } 0,
        .construct { kind := .cacheBlock, blockPath := "/blk00000001.dat" } 0,
        .destroy 1] = first ++ rest →
      runEvents (step 100) first start = some reached → NoDangling reached := by
  intro always
  have clean := always _ [] _ (List.append_nil _).symm rfl
  obtain ⟨object, alive⟩ := clean
    (.new (some 1) 100 (-1) ("cache::" ++ "/blk00000001.dat")) (by decide) 1 rfl
  exact (mem_without.mp alive).2 rfl

end BlockTimers

end Cache

end GradidoNode
