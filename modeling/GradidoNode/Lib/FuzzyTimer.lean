import GradidoNode.Library.OrderedMultimap

/-!
# The fuzzy timer

A multimap of registered callbacks by the time of their next call. One tick calls at most
the first of them, and registers it again if it wants to go on.
-/

namespace GradidoNode

open Library

inductive TimerReturn
  | GO_ON
  | REMOVE_ME
  | REPORT_ERROR
  | EXCEPTION
  | NOT_SET
  deriving DecidableEq

/-- `TimerEntry`. Callback objects are known by numbers; none is a null pointer. -/
structure TimerEntry where
  callback : Option Nat
  timeInterval : Int
  initLoopCount : Int
  currentLoopCount : Int
  name : String
  deriving DecidableEq

namespace TimerEntry

def new (callback : Option Nat) (timeInterval initLoopCount : Int) (name : String) :
    TimerEntry where
  callback := callback
  timeInterval := timeInterval
  initLoopCount := initLoopCount
  currentLoopCount := 0
  name := name

/-- `nextLoop`: whether the timer runs once again, and the counted entry. -/
def nextLoop (entry : TimerEntry) : Bool × TimerEntry :=
  let counted := { entry with currentLoopCount := entry.currentLoopCount + 1 }
  (counted.initLoopCount < 0 || counted.initLoopCount - 1 > counted.currentLoopCount, counted)

end TimerEntry

/-- `FuzzyTimer`; times are milliseconds. -/
structure FuzzyTimer where
  registeredAtTimer : OrderedMultimap Int TimerEntry
  exit : Bool

namespace FuzzyTimer

def new : FuzzyTimer where
  registeredAtTimer := ∅
  exit := false

/-- `addTimer` at the time `now`. -/
def addTimer (name : String) (callbackObject : Option Nat) (timeInterval loopCount : Int)
    (now : Int) (timer : FuzzyTimer) : Bool × FuzzyTimer :=
  if timer.exit then (false, timer)
  else (true, { timer with
    registeredAtTimer := timer.registeredAtTimer.insert (now + timeInterval)
      (.new callbackObject timeInterval loopCount name) })

/-- `removeTimer`: the number of removed entries, or -1 once the timer has stopped. -/
def removeTimer (name : String) (timer : FuzzyTimer) : Int × FuzzyTimer :=
  if timer.exit then (-1, timer)
  else
    (timer.registeredAtTimer.values.countP (fun entry => entry.name = name),
      { timer with
        registeredAtTimer := timer.registeredAtTimer.eraseAll fun entry => entry.name = name })

/-- `move` at the time `now`; `callFromTimer` is what the callback answers, with a caught
exception as `EXCEPTION`. -/
def move (now : Int) (callFromTimer : TimerReturn) (timer : FuzzyTimer) : Bool × FuzzyTimer :=
  if timer.exit then (false, timer)
  else
    match timer.registeredAtTimer.toList with
    | [] => (true, timer)
    | (time, entry) :: _ =>
        if time ≤ now then
          let erased := timer.registeredAtTimer.eraseBegin
          match entry.callback with
          | none => (true, { timer with registeredAtTimer := erased })
          | some _ =>
              let next := entry.nextLoop
              if next.1 && callFromTimer == .GO_ON then
                (true, { timer with
                  registeredAtTimer := erased.insert (now + entry.timeInterval) next.2 })
              else (true, { timer with registeredAtTimer := erased })
        else (true, timer)

variable {timer : FuzzyTimer}

theorem mem_addTimer {name : String} {callbackObject : Option Nat} {timeInterval loopCount now : Int}
    {entry : TimerEntry}
    (member : entry ∈
      (timer.addTimer name callbackObject timeInterval loopCount now).2.registeredAtTimer.values) :
    entry = .new callbackObject timeInterval loopCount name ∨
      entry ∈ timer.registeredAtTimer.values := by
  unfold addTimer at member
  split at member
  · exact Or.inr member
  · exact OrderedMultimap.mem_values_insert.mp member

/-- What is left after a removal, while the timer runs. -/
theorem mem_removeTimer {name : String} {entry : TimerEntry} (running : timer.exit = false) :
    entry ∈ (timer.removeTimer name).2.registeredAtTimer.values ↔
      entry ∈ timer.registeredAtTimer.values ∧ entry.name ≠ name := by
  rw [removeTimer, if_neg (Bool.eq_false_iff.mp running)]
  refine OrderedMultimap.mem_values_eraseAll.trans (and_congr_right fun _ => ?_)
  rw [decide_eq_false_iff_not]

/-- A tick registers nothing new, but counts. -/
theorem exists_of_mem_move {now : Int} {callFromTimer : TimerReturn} {entry : TimerEntry}
    (member : entry ∈ (timer.move now callFromTimer).2.registeredAtTimer.values) :
    ∃ before ∈ timer.registeredAtTimer.values,
      entry.callback = before.callback ∧ entry.name = before.name := by
  have unchanged (kept : entry ∈ timer.registeredAtTimer.values) :
      ∃ before ∈ timer.registeredAtTimer.values,
        entry.callback = before.callback ∧ entry.name = before.name :=
    ⟨entry, kept, rfl, rfl⟩
  unfold move at member
  split at member
  · exact unchanged member
  · split at member
    · exact unchanged member
    · rename_i time first rest registered
      split at member
      · dsimp only at member
        split at member
        · exact unchanged (OrderedMultimap.mem_values_of_eraseBegin member)
        · split at member
          · rcases OrderedMultimap.mem_values_insert.mp member with rfl | kept
            · refine ⟨first, ?_, rfl, rfl⟩
              rw [OrderedMultimap.values, registered]
              exact List.mem_cons_self ..
            · exact unchanged (OrderedMultimap.mem_values_of_eraseBegin kept)
          · exact unchanged (OrderedMultimap.mem_values_of_eraseBegin member)
      · exact unchanged member

theorem addTimer_exit (name : String) (callbackObject : Option Nat)
    (timeInterval loopCount now : Int) (timer : FuzzyTimer) :
    (timer.addTimer name callbackObject timeInterval loopCount now).2.exit = timer.exit := by
  unfold addTimer
  split <;> rfl

theorem removeTimer_exit (name : String) (timer : FuzzyTimer) :
    (timer.removeTimer name).2.exit = timer.exit := by
  unfold removeTimer
  split <;> rfl

theorem move_exit (now : Int) (callFromTimer : TimerReturn) (timer : FuzzyTimer) :
    (timer.move now callFromTimer).2.exit = timer.exit := by
  unfold move
  split
  · rfl
  · split
    · rfl
    · split
      · dsimp only
        split
        · rfl
        · split <;> rfl
      · rfl

end FuzzyTimer

end GradidoNode
