import GradidoNode.Lib.FuzzyTimer
import Mathlib.Algebra.GroupWithZero.Nat
import Mathlib.Data.List.Induction

/-!
# Which callbacks the timer calls

One tick calls at most one callback. An entry that is due gets its turn all the same: nothing
that is registered later comes before it, so the entries before it get fewer with every tick.
-/

namespace GradidoNode

open Library

namespace Library.OrderedMultimap

variable {Key Value : Type*} [LinearOrder Key]

/-- A new entry goes behind those that do not come later. -/
theorem insertList_append {entry : Key × Value} {first : List (Key × Value)}
    (before : ∀ other ∈ first, other.1 ≤ entry.1) (rest : List (Key × Value)) :
    insertList entry (first ++ rest) = first ++ insertList entry rest := by
  induction first with
  | nil => rfl
  | cons head tail ih =>
      obtain ⟨headBefore, tailBefore⟩ := List.forall_mem_cons.mp before
      unfold insertList at ih ⊢
      rw [List.cons_append, List.orderedInsert_cons, if_neg (not_lt.mpr headBefore),
        ih tailBefore, List.cons_append]

end Library.OrderedMultimap

/-- How many calls are left: one at least, and one less than the loop count. -/
def TimerEntry.loops (entry : TimerEntry) : Nat :=
  max 1 (entry.initLoopCount - 1 - entry.currentLoopCount).toNat

/-- The same, but none for an entry of another name. -/
def TimerEntry.loopsOf (name : String) (entry : TimerEntry) : Nat :=
  if entry.name = name then entry.loops else 0

/-- A call of one of the timer's methods, with what its clock shows. -/
inductive TimerEvent
  | addTimer (name : String) (callbackObject : Option Nat) (timeInterval loopCount now : Int)
  | removeTimer (name : String)
  | move (now : Int) (callFromTimer : TimerReturn)
  | stop

namespace TimerEvent

def isMove : TimerEvent → Bool
  | .move _ _ => true
  | _ => false

/-- How many calls a registration of this name is good for. -/
def loops (name : String) : TimerEvent → Nat
  | .addTimer other callbackObject timeInterval loopCount _ =>
      (TimerEntry.new callbackObject timeInterval loopCount other).loopsOf name
  | _ => 0

/-- A callback of this name is not registered for ever. -/
def Limited (name : String) : TimerEvent → Prop
  | .addTimer other _ _ loopCount _ => other = name → 0 ≤ loopCount
  | _ => True

/-- No callback is registered for a time that is past. -/
def NoBackdating : TimerEvent → Prop
  | .addTimer _ _ timeInterval _ _ => 0 ≤ timeInterval
  | _ => True

/-- Nothing that keeps an entry of this name, due at this time, from being called. -/
def Patient (time : Int) (name : String) : TimerEvent → Prop
  | .addTimer _ _ timeInterval _ now => time ≤ now + timeInterval
  | .removeTimer removed => name ≠ removed
  | .move now _ => time ≤ now
  | .stop => False

end TimerEvent

namespace FuzzyTimer

def stop (timer : FuzzyTimer) : FuzzyTimer := { timer with exit := true }

def step (timer : FuzzyTimer) : TimerEvent → FuzzyTimer
  | .addTimer name callbackObject timeInterval loopCount now =>
      (timer.addTimer name callbackObject timeInterval loopCount now).2
  | .removeTimer name => (timer.removeTimer name).2
  | .move now callFromTimer => (timer.move now callFromTimer).2
  | .stop => timer.stop

def runAll (timer : FuzzyTimer) (events : List TimerEvent) : FuzzyTimer := events.foldl step timer

/-- The entry that a tick at the time `now` takes out of the timer, with its time. -/
def due (timer : FuzzyTimer) (now : Int) : Option (Int × TimerEntry) :=
  if timer.exit then none
  else timer.registeredAtTimer.toList.head?.filter fun entry => entry.1 ≤ now

/-- The entry whose callback is called, with its time. -/
def called (timer : FuzzyTimer) : TimerEvent → Option (Int × TimerEntry)
  | .move now _ => (timer.due now).filter fun entry => entry.2.callback.isSome
  | _ => none

/-- Nothing that ends a registration of this name early: a callback of this name asks to be called
again. -/
def Undisturbing (timer : FuzzyTimer) (name : String) : TimerEvent → Prop
  | .addTimer other callbackObject _ _ _ => other = name → callbackObject.isSome
  | .removeTimer removed => name ≠ removed
  | .move now callFromTimer => ∀ entry, timer.called (.move now callFromTimer) = some entry →
      entry.2.name = name → callFromTimer = .GO_ON
  | .stop => False

/-- No event of a run is anything else. -/
def RunsUndisturbed (timer : FuzzyTimer) (name : String) : List TimerEvent → Prop
  | [] => True
  | event :: rest => timer.Undisturbing name event ∧ (timer.step event).RunsUndisturbed name rest

variable {timer : FuzzyTimer}

theorem due_eq_some {now : Int} {first : Int × TimerEntry} (isDue : timer.due now = some first) :
    timer.exit = false ∧ first.1 ≤ now ∧
      ∃ rest, timer.registeredAtTimer.toList = first :: rest := by
  unfold due at isDue
  split at isDue
  · cases isDue
  · rename_i running
    obtain ⟨isFirst, past⟩ := Option.filter_eq_some_iff.mp isDue
    exact ⟨Bool.eq_false_iff.mpr running, of_decide_eq_true past, List.head?_eq_some_iff.mp isFirst⟩

/-- Without an entry that is due, a tick does nothing. -/
theorem move_of_none {now : Int} (noneDue : timer.due now = none) (callFromTimer : TimerReturn) :
    (timer.move now callFromTimer).2 = timer := by
  unfold move
  unfold due at noneDue
  split
  · rfl
  · rename_i running
    rw [if_neg running] at noneDue
    split
    · rfl
    · rename_i time entry rest listed
      rw [listed] at noneDue
      have notPast := Option.filter_eq_none_iff.mp noneDue (time, entry) rfl
      rw [if_neg (fun past => notPast (decide_eq_true past))]

/-- A tick takes the entry out that is due, and may put it in again with its calls counted. -/
theorem move_of_due {now : Int} {first : Int × TimerEntry} (isDue : timer.due now = some first)
    (callFromTimer : TimerReturn) :
    (timer.move now callFromTimer).2 = { timer with
      registeredAtTimer :=
        if first.2.callback.isSome ∧ first.2.nextLoop.1 = true ∧ callFromTimer = .GO_ON then
          timer.registeredAtTimer.eraseBegin.insert (now + first.2.timeInterval) first.2.nextLoop.2
        else timer.registeredAtTimer.eraseBegin } := by
  obtain ⟨running, past, rest, listed⟩ := due_eq_some isDue
  unfold move
  rw [if_neg (Bool.eq_false_iff.mp running), listed]
  dsimp only
  rw [if_pos past]
  cases callback : first.2.callback with
  | none => simp
  | some object =>
      dsimp only
      split
      · rename_i goesOn
        rw [if_pos (by simpa using goesOn)]
      · rename_i ends
        rw [if_neg (by simpa using ends)]

section Turn

/-- No registered callback is called again before its time. -/
def Forward (timer : FuzzyTimer) : Prop :=
  ∀ entry ∈ timer.registeredAtTimer.values, 0 ≤ entry.timeInterval

theorem Forward.step (forward : timer.Forward) {event : TimerEvent} (forth : event.NoBackdating) :
    (timer.step event).Forward := by
  intro entry member
  cases event with
  | addTimer name callbackObject timeInterval loopCount now =>
      rcases mem_addTimer member with rfl | old
      · exact forth
      · exact forward entry old
  | removeTimer name =>
      apply forward
      change entry ∈ (timer.removeTimer name).2.registeredAtTimer.values at member
      unfold removeTimer at member
      split at member
      · exact member
      · exact (OrderedMultimap.mem_values_eraseAll.mp member).1
  | move now callFromTimer =>
      change entry ∈ (timer.move now callFromTimer).2.registeredAtTimer.values at member
      cases isDue : timer.due now with
      | none =>
          rw [move_of_none isDue] at member
          exact forward entry member
      | some first =>
          obtain ⟨_, _, rest, listed⟩ := due_eq_some isDue
          rw [move_of_due isDue] at member
          split at member
          · rcases OrderedMultimap.mem_values_insert.mp member with rfl | kept
            · apply forward first.2
              rw [OrderedMultimap.values, listed]
              exact List.mem_cons_self ..
            · exact forward entry (OrderedMultimap.mem_values_of_eraseBegin kept)
          · exact forward entry (OrderedMultimap.mem_values_of_eraseBegin member)
  | stop => exact forward entry member

/-- The entry is registered with `count` entries before it. -/
def WaitsBehind (timer : FuzzyTimer) (entry : Int × TimerEntry) (count : Nat) : Prop :=
  ∃ front rest, timer.registeredAtTimer.toList = front ++ entry :: rest ∧ front.length = count

theorem front_le {front rest : List (Int × TimerEntry)} {entry : Int × TimerEntry}
    (listed : timer.registeredAtTimer.toList = front ++ entry :: rest) :
    ∀ other ∈ front ++ [entry], other.1 ≤ entry.1 := by
  have sorted := timer.registeredAtTimer.sorted
  rw [listed] at sorted
  intro other member
  rcases List.mem_append.mp member with before | same
  · exact (List.pairwise_append.mp sorted).2.2 other before entry (List.mem_cons_self ..)
  · rw [List.mem_singleton.mp same]

/-- What comes behind a waiting entry does not change that it waits. -/
theorem WaitsBehind.insert {entry : Int × TimerEntry} {count : Nat}
    (waits : timer.WaitsBehind entry count) {key : Int} (later : entry.1 ≤ key)
    (other : TimerEntry) :
    ({ timer with
      registeredAtTimer := timer.registeredAtTimer.insert key other } : FuzzyTimer).WaitsBehind
        entry count := by
  obtain ⟨front, rest, listed, length⟩ := waits
  refine ⟨front, OrderedMultimap.insertList (key, other) rest, ?_, length⟩
  have before (present : Int × TimerEntry) (member : present ∈ front ++ [entry]) :
      present.1 ≤ key := le_trans (front_le listed present member) later
  change OrderedMultimap.insertList (key, other) timer.registeredAtTimer.toList = _
  rw [listed, ← List.singleton_append, ← List.append_assoc,
    OrderedMultimap.insertList_append before, List.append_assoc, List.singleton_append]

/-- A tick calls the first entry, or the entries before the waiting one get fewer. -/
theorem WaitsBehind.move {entry : Int × TimerEntry} {count : Nat} {now : Int}
    (waits : timer.WaitsBehind entry count) (running : timer.exit = false)
    (forward : timer.Forward) (past : entry.1 ≤ now) (callFromTimer : TimerReturn) :
    (count = 0 ∧ timer.due now = some entry) ∨
      ∃ fewer, count = fewer + 1 ∧
        (timer.move now callFromTimer).2.WaitsBehind entry fewer := by
  obtain ⟨front, rest, listed, rfl⟩ := waits
  cases front with
  | nil =>
      left
      unfold due
      rw [if_neg (Bool.eq_false_iff.mp running), listed]
      simp [past]
  | cons first others =>
      right
      have firstPast : first.1 ≤ now :=
        le_trans (front_le listed first (List.mem_cons_self ..)) past
      have isDue : timer.due now = some first := by
        unfold due
        rw [if_neg (Bool.eq_false_iff.mp running), listed]
        simp [firstPast]
      have erased : ({ timer with
          registeredAtTimer := timer.registeredAtTimer.eraseBegin } : FuzzyTimer).WaitsBehind
          entry others.length :=
        ⟨others, rest, congrArg List.tail listed, rfl⟩
      refine ⟨others.length, rfl, ?_⟩
      rw [move_of_due isDue]
      split
      · have interval := forward first.2 (by
          rw [OrderedMultimap.values, listed]
          exact List.mem_cons_self ..)
        exact erased.insert (le_trans past (Int.le_add_of_nonneg_right interval)) first.2.nextLoop.2
      · exact erased

/-- Patient events leave the timer running, and take no turn from a waiting entry. -/
theorem WaitsBehind.step {entry : Int × TimerEntry} {count : Nat} {event : TimerEvent}
    (waits : timer.WaitsBehind entry count) (running : timer.exit = false)
    (forward : timer.Forward) (callback : entry.2.callback.isSome)
    (patient : event.Patient entry.1 entry.2.name) :
    (event.isMove = true ∧ count = 0 ∧ timer.called event = some entry) ∨
      ∃ fewer, fewer + (if event.isMove then 1 else 0) ≤ count ∧
        (timer.step event).WaitsBehind entry fewer ∧ (timer.step event).exit = false := by
  cases event with
  | addTimer name callbackObject timeInterval loopCount now =>
      refine Or.inr ⟨count, le_rfl, ?_, (addTimer_exit ..).trans running⟩
      change (timer.addTimer name callbackObject timeInterval loopCount now).2.WaitsBehind ..
      rw [addTimer, if_neg (Bool.eq_false_iff.mp running)]
      exact waits.insert patient _
  | removeTimer removed =>
      obtain ⟨front, rest, listed, rfl⟩ := waits
      let others := front.filter fun other => !decide (other.2.name = removed)
      refine Or.inr ⟨others.length, List.length_filter_le .., ⟨others, rest.filter fun other =>
        !decide (other.2.name = removed), ?_, rfl⟩, (removeTimer_exit ..).trans running⟩
      change (timer.removeTimer removed).2.registeredAtTimer.toList = _
      have kept : (!decide (entry.2.name = removed)) = true := by
        rw [decide_eq_false patient]
        rfl
      rw [removeTimer, if_neg (Bool.eq_false_iff.mp running)]
      change timer.registeredAtTimer.toList.filter (fun other =>
        !decide (other.2.name = removed)) = _
      rw [listed, List.filter_append, List.filter_cons, if_pos kept]
  | move now callFromTimer =>
      rcases waits.move running forward patient callFromTimer with
        ⟨none, isDue⟩ | ⟨fewer, rfl, behind⟩
      · left
        refine ⟨rfl, none, ?_⟩
        change (timer.due now).filter _ = _
        rw [isDue]
        simp [callback]
      · exact Or.inr ⟨fewer, le_rfl, behind, (move_exit ..).trans running⟩
  | stop => cases patient

theorem Forward.run {events : List TimerEvent} (forward : timer.Forward)
    (forth : ∀ event ∈ events, event.NoBackdating) : (timer.runAll events).Forward := by
  induction events generalizing timer with
  | nil => exact forward
  | cons event rest ih =>
      obtain ⟨head, tail⟩ := List.forall_mem_cons.mp forth
      exact ih (forward.step head) tail

/-- From a state in which the entry waits. -/
theorem WaitsBehind.called {entry : Int × TimerEntry} {count : Nat} {events : List TimerEvent}
    (waits : timer.WaitsBehind entry count) (running : timer.exit = false)
    (forward : timer.Forward) (callback : entry.2.callback.isSome)
    (forth : ∀ event ∈ events, event.NoBackdating)
    (patient : ∀ event ∈ events, event.Patient entry.1 entry.2.name)
    (ticks : count < events.countP TimerEvent.isMove) :
    ∃ first event last, events = first ++ event :: last ∧
      first.countP TimerEvent.isMove ≤ count ∧
      (timer.runAll first).called event = some entry := by
  induction events generalizing timer count with
  | nil => exact absurd ticks (Nat.not_lt_zero _)
  | cons event rest ih =>
      obtain ⟨patientHead, patientRest⟩ := List.forall_mem_cons.mp patient
      obtain ⟨forthHead, forthRest⟩ := List.forall_mem_cons.mp forth
      rcases waits.step running forward callback patientHead with
        ⟨_, _, isCalled⟩ | ⟨fewer, atMost, behind, stillRunning⟩
      · exact ⟨[], event, rest, rfl, Nat.zero_le _, isCalled⟩
      · rw [List.countP_cons] at ticks
        obtain ⟨first, call, last, split, early, isCalled⟩ :=
          ih behind stillRunning (forward.step forthHead) forthRest patientRest (by omega)
        refine ⟨event :: first, call, last, by rw [split, List.cons_append], ?_, isCalled⟩
        rw [List.countP_cons]
        omega

/-- However many callbacks are due and whatever is registered, removed and called meanwhile: an
entry that is due, with `count` entries before it, is called in one of the next `count + 1` ticks,
unless its name is removed, the timer is stopped or the clock goes back. -/
theorem called_of_due {before after : List TimerEvent} {entry : Int × TimerEntry} {count : Nat}
    (forth : ∀ event ∈ before ++ after, event.NoBackdating)
    (running : (runAll .new before).exit = false)
    (waits : (runAll .new before).WaitsBehind entry count)
    (callback : entry.2.callback.isSome)
    (patient : ∀ event ∈ after, event.Patient entry.1 entry.2.name)
    (ticks : count < after.countP TimerEvent.isMove) :
    ∃ first event last, after = first ++ event :: last ∧
      first.countP TimerEvent.isMove ≤ count ∧
      (runAll .new (before ++ first)).called event = some entry := by
  obtain ⟨forthBefore, forthAfter⟩ := List.forall_mem_append.mp forth
  have start : FuzzyTimer.new.Forward := nofun
  obtain ⟨first, event, last, split, early, isCalled⟩ :=
    WaitsBehind.called waits running (start.run forthBefore) callback forthAfter patient ticks
  refine ⟨first, event, last, split, early, ?_⟩
  rw [runAll, List.foldl_append]
  exact isCalled

/-- Two callbacks are due. While the first is called and removed, and a third one is registered,
the second waits for the next tick. -/
theorem called_secondDue :
    ∃ first event last, [TimerEvent.move 100 .GO_ON, .addTimer "cache::2" (some 2) 100 (-1) 100,
        .removeTimer "cache::0", .move 220 .GO_ON] = first ++ event :: last ∧
      first.countP TimerEvent.isMove ≤ 1 ∧
      (runAll .new ([.addTimer "cache::0" (some 0) 100 (-1) 0,
        .addTimer "cache::1" (some 1) 100 (-1) 0] ++ first)).called event =
          some (100, .new (some 1) 100 (-1) "cache::1") := by
  refine called_of_due ?_ rfl ⟨[(100, .new (some 0) 100 (-1) "cache::0")], [], rfl, rfl⟩ rfl ?_
    (by decide)
  · intro event member
    simp only [List.cons_append, List.nil_append, List.mem_cons, List.not_mem_nil, or_false]
      at member
    rcases member with rfl | rfl | rfl | rfl | rfl | rfl <;> simp [TimerEvent.NoBackdating]
  · simp [TimerEvent.Patient, TimerEntry.new]

end Turn

section Calls

/-- The entries whose callbacks are called along the events, each with its time. -/
def calls (timer : FuzzyTimer) : List TimerEvent → List (Int × TimerEntry)
  | [] => []
  | event :: rest => (timer.called event).toList ++ (timer.step event).calls rest

/-- When the entry's time was set: it was registered, or called, its interval before. -/
inductive SetBy (timer : FuzzyTimer) : TimerEvent → Int × TimerEntry → Prop
  | addTimer (name : String) (callbackObject : Option Nat) (timeInterval loopCount now : Int) :
      SetBy timer (.addTimer name callbackObject timeInterval loopCount now)
        (now + timeInterval, .new callbackObject timeInterval loopCount name)
  | move (now : Int) (before : Int × TimerEntry)
      (isCalled : timer.called (.move now .GO_ON) = some before)
      (goesOn : before.2.nextLoop.1 = true) :
      SetBy timer (.move now .GO_ON) (now + before.2.timeInterval, before.2.nextLoop.2)

theorem setBy_of_step {event : TimerEvent} {entry : Int × TimerEntry}
    (member : entry ∈ (timer.step event).registeredAtTimer.toList) :
    entry ∈ timer.registeredAtTimer.toList ∨ timer.SetBy event entry := by
  cases event with
  | addTimer name callbackObject timeInterval loopCount now =>
      change entry ∈ (timer.addTimer ..).2.registeredAtTimer.toList at member
      unfold addTimer at member
      split at member
      · exact Or.inl member
      · rcases List.mem_cons.mp
          ((OrderedMultimap.toList_insert_perm ..).mem_iff.mp member) with rfl | old
        · exact Or.inr (.addTimer ..)
        · exact Or.inl old
  | removeTimer name =>
      change entry ∈ (timer.removeTimer name).2.registeredAtTimer.toList at member
      unfold removeTimer at member
      split at member
      · exact Or.inl member
      · exact Or.inl (List.mem_of_mem_filter member)
  | move now callFromTimer =>
      change entry ∈ (timer.move now callFromTimer).2.registeredAtTimer.toList at member
      cases isDue : timer.due now with
      | none =>
          rw [move_of_none isDue] at member
          exact Or.inl member
      | some first =>
          rw [move_of_due isDue] at member
          split at member
          · rename_i again
            obtain ⟨callback, goesOn, rfl⟩ := again
            rcases List.mem_cons.mp
              ((OrderedMultimap.toList_insert_perm ..).mem_iff.mp member) with rfl | old
            · refine Or.inr (.move now first ?_ goesOn)
              change (timer.due now).filter _ = _
              rw [isDue]
              simp [callback]
            · exact Or.inl (List.mem_of_mem_tail old)
          · exact Or.inl (List.mem_of_mem_tail member)
  | stop => exact Or.inl member

/-- Each registered entry has its time from one of the events before. -/
theorem exists_setBy {events : List TimerEvent} {entry : Int × TimerEntry}
    (member : entry ∈ (runAll .new events).registeredAtTimer.toList) :
    ∃ first event last, events = first ++ event :: last ∧
      (runAll .new first).SetBy event entry := by
  induction events using List.reverseRecOn with
  | nil => cases member
  | append_singleton events event ih =>
      rw [runAll, List.foldl_append] at member
      rcases setBy_of_step member with old | set
      · obtain ⟨first, setter, last, split, set⟩ := ih old
        exact ⟨first, setter, last ++ [event], by rw [split, List.append_assoc]; rfl, set⟩
      · exact ⟨events, event, [], rfl, set⟩

/-- The calls that the registered entries of this name are good for. -/
def pendingLoops (timer : FuzzyTimer) (name : String) : Nat :=
  (timer.registeredAtTimer.values.map (TimerEntry.loopsOf name)).sum

/-- Entries of this name are not registered for ever. -/
def Limited (timer : FuzzyTimer) (name : String) : Prop :=
  ∀ entry ∈ timer.registeredAtTimer.values, entry.name = name → 0 ≤ entry.initLoopCount

/-- Entries of this name have a callback, and the timer runs. -/
structure Undisturbed (timer : FuzzyTimer) (name : String) : Prop where
  callback : ∀ entry ∈ timer.registeredAtTimer.values, entry.name = name → entry.callback.isSome
  running : timer.exit = false

theorem sum_insert (registered : OrderedMultimap Int TimerEntry) (key : Int) (entry : TimerEntry)
    (count : TimerEntry → Nat) :
    ((registered.insert key entry).values.map count).sum =
      count entry + (registered.values.map count).sum := by
  rw [((registered.values_insert_perm key entry).map count).sum_nat, List.map_cons, List.sum_cons]

/-- What is filtered out does not count, or counted nothing before. -/
theorem sum_filter {Item : Type} (items : List Item) (kept : Item → Bool) (count : Item → Nat) :
    ((items.filter kept).map count).sum ≤ (items.map count).sum ∧
      ((∀ item ∈ items, kept item = false → count item = 0) →
        ((items.filter kept).map count).sum = (items.map count).sum) := by
  induction items with
  | nil => exact ⟨le_rfl, fun _ => rfl⟩
  | cons item rest ih =>
      obtain ⟨atMost, same⟩ := ih
      rw [List.map_cons, List.sum_cons]
      cases isKept : kept item with
      | true =>
          rw [List.filter_cons_of_pos isKept, List.map_cons, List.sum_cons]
          refine ⟨Nat.add_le_add_left atMost _, fun nothing => ?_⟩
          rw [same fun other member => nothing other (List.mem_cons_of_mem _ member)]
      | false =>
          rw [List.filter_cons_of_neg (by simp [isKept])]
          refine ⟨le_trans atMost (Nat.le_add_left _ _), fun nothing => ?_⟩
          rw [nothing item (List.mem_cons_self ..) isKept, Nat.zero_add,
            same fun other member => nothing other (List.mem_cons_of_mem _ member)]

/-- Each call uses up one of the calls that are left. -/
theorem loops_nextLoop {entry : TimerEntry} (limited : 0 ≤ entry.initLoopCount) :
    (entry.nextLoop.1 = true → entry.loops = 1 + entry.nextLoop.2.loops) ∧
      (¬ entry.nextLoop.1 = true → entry.loops = 1) := by
  have goesOn : entry.nextLoop.1 = true ↔ entry.currentLoopCount + 1 < entry.initLoopCount - 1 := by
    simp only [TimerEntry.nextLoop, Bool.or_eq_true, decide_eq_true_eq]
    omega
  have counted : entry.nextLoop.2.loops =
      max 1 (entry.initLoopCount - 1 - (entry.currentLoopCount + 1)).toNat := rfl
  rw [goesOn, counted, TimerEntry.loops]
  constructor
  · intro again
    omega
  · intro ends
    omega

/-- What a step does to the registered entries, as far as a sum over them can tell. -/
theorem limited_step {name : String} {event : TimerEvent} (limited : timer.Limited name)
    (limitedEvent : event.Limited name) : (timer.step event).Limited name := by
  intro entry member isNamed
  obtain ⟨listed, inMap, rfl⟩ := List.mem_map.mp member
  rcases setBy_of_step inMap with old | set
  · exact limited _ (List.mem_map_of_mem old) isNamed
  · cases set with
    | addTimer => exact limitedEvent isNamed
    | move now before isCalled goesOn =>
        obtain ⟨isDue, _⟩ := Option.filter_eq_some_iff.mp isCalled
        obtain ⟨_, _, rest, isFirst⟩ := due_eq_some isDue
        apply limited before.2 _ isNamed
        rw [OrderedMultimap.values, isFirst]
        exact List.mem_cons_self ..

theorem undisturbed_step {name : String} {event : TimerEvent} (undisturbed : timer.Undisturbed name)
    (undisturbing : timer.Undisturbing name event) : (timer.step event).Undisturbed name where
  callback entry member isNamed := by
    obtain ⟨listed, inMap, rfl⟩ := List.mem_map.mp member
    rcases setBy_of_step inMap with old | set
    · exact undisturbed.callback _ (List.mem_map_of_mem old) isNamed
    · cases set with
      | addTimer => exact undisturbing isNamed
      | move now before isCalled goesOn => exact (Option.filter_eq_some_iff.mp isCalled).2
  running := by
    cases event with
    | addTimer => exact (addTimer_exit ..).trans undisturbed.running
    | removeTimer => exact (removeTimer_exit ..).trans undisturbed.running
    | move => exact (move_exit ..).trans undisturbed.running
    | stop => cases undisturbing

/-- Whether a call is made in a tick that takes an entry out. -/
theorem countP_called (name : String) (first : Int × TimerEntry) :
    ((some first).filter fun entry => entry.2.callback.isSome).toList.countP
        (fun entry => entry.2.name = name) =
      if first.2.callback.isSome ∧ first.2.name = name then 1 else 0 := by
  by_cases callback : first.2.callback.isSome
  · by_cases isNamed : first.2.name = name <;> simp [Option.filter, callback, isNamed]
  · simp [Option.filter, callback]

/-- A tick that takes an entry out. -/
theorem pendingLoops_move {name : String} {now : Int} {first : Int × TimerEntry}
    (limited : timer.Limited name) (isDue : timer.due now = some first)
    (callFromTimer : TimerReturn) :
    ((some first).filter fun entry => entry.2.callback.isSome).toList.countP
          (fun entry => entry.2.name = name) +
        (timer.move now callFromTimer).2.pendingLoops name ≤ timer.pendingLoops name ∧
    (timer.Undisturbed name → timer.Undisturbing name (.move now callFromTimer) →
      ((some first).filter fun entry => entry.2.callback.isSome).toList.countP
          (fun entry => entry.2.name = name) +
        (timer.move now callFromTimer).2.pendingLoops name = timer.pendingLoops name) := by
  obtain ⟨running, past, rest, listed⟩ := due_eq_some isDue
  have member : first.2 ∈ timer.registeredAtTimer.values := by
    rw [OrderedMultimap.values, listed]
    exact List.mem_cons_self ..
  let others := (timer.registeredAtTimer.eraseBegin.values.map (TimerEntry.loopsOf name)).sum
  have erased : timer.registeredAtTimer.eraseBegin.values = rest.map Prod.snd :=
    congrArg (List.map Prod.snd) (congrArg List.tail listed)
  have taken : timer.pendingLoops name = first.2.loopsOf name + others := by
    change _ = _ + (timer.registeredAtTimer.eraseBegin.values.map _).sum
    rw [erased, pendingLoops, OrderedMultimap.values, listed]
    rfl
  rw [taken, countP_called]
  by_cases again : first.2.callback.isSome ∧ first.2.nextLoop.1 = true ∧ callFromTimer = .GO_ON
  · have left : (timer.move now callFromTimer).2.pendingLoops name =
        first.2.nextLoop.2.loopsOf name + others := by
      rw [move_of_due isDue, if_pos again]
      exact sum_insert ..
    have conserved : (if first.2.callback.isSome ∧ first.2.name = name then 1 else 0) +
        first.2.nextLoop.2.loopsOf name = first.2.loopsOf name := by
      have sameName : first.2.nextLoop.2.name = first.2.name := rfl
      unfold TimerEntry.loopsOf
      rw [sameName]
      by_cases isNamed : first.2.name = name
      · rw [if_pos ⟨again.1, isNamed⟩, if_pos isNamed, if_pos isNamed]
        exact ((loops_nextLoop (limited first.2 member isNamed)).1 again.2.1).symm
      · rw [if_neg fun isCalled => isNamed isCalled.2, if_neg isNamed, if_neg isNamed]
    rw [left, ← Nat.add_assoc, conserved]
    exact ⟨le_rfl, fun _ _ => rfl⟩
  · have left : (timer.move now callFromTimer).2.pendingLoops name = others := by
      rw [move_of_due isDue, if_neg again]
      rfl
    rw [left]
    refine ⟨Nat.add_le_add_right ?_ _, fun undisturbed undisturbing => ?_⟩
    · unfold TimerEntry.loopsOf
      split
      · rename_i isCalled
        rw [if_pos isCalled.2]
        exact le_max_left ..
      · exact Nat.zero_le _
    · unfold TimerEntry.loopsOf
      by_cases isNamed : first.2.name = name
      · have callback := undisturbed.callback first.2 member isNamed
        have isCalled : timer.called (.move now callFromTimer) = some first :=
          Option.filter_eq_some_iff.mpr ⟨isDue, callback⟩
        have goOn := undisturbing first isCalled isNamed
        rw [if_pos ⟨callback, isNamed⟩, if_pos isNamed,
          (loops_nextLoop (limited first.2 member isNamed)).2 fun goesOn =>
            again ⟨callback, goesOn, goOn⟩]
      · rw [if_neg fun isCalled => isNamed isCalled.2, if_neg isNamed]

/-- The calls that are left, and those that are made, along one step. -/
theorem pendingLoops_step {name : String} {event : TimerEvent} (limited : timer.Limited name) :
    (timer.called event).toList.countP (fun entry => entry.2.name = name) +
        (timer.step event).pendingLoops name ≤
      timer.pendingLoops name + event.loops name ∧
    (timer.Undisturbed name → timer.Undisturbing name event →
      (timer.called event).toList.countP (fun entry => entry.2.name = name) +
        (timer.step event).pendingLoops name =
      timer.pendingLoops name + event.loops name) := by
  cases event with
  | addTimer other callbackObject timeInterval loopCount now =>
      change 0 + (timer.addTimer ..).2.pendingLoops name ≤ _ ∧
        (_ → _ → 0 + (timer.addTimer ..).2.pendingLoops name = _)
      unfold addTimer
      split
      · rename_i stopped
        refine ⟨by simp only [Nat.zero_add]; exact Nat.le_add_right _ _, fun undisturbed => ?_⟩
        rw [undisturbed.running] at stopped
        cases stopped
      · have inserted := sum_insert timer.registeredAtTimer (now + timeInterval)
          (.new callbackObject timeInterval loopCount other) (TimerEntry.loopsOf name)
        have same : 0 + pendingLoops { timer with
            registeredAtTimer := timer.registeredAtTimer.insert (now + timeInterval)
              (.new callbackObject timeInterval loopCount other) } name =
            timer.pendingLoops name +
              TimerEvent.loops name (.addTimer other callbackObject timeInterval loopCount now) := by
          rw [Nat.zero_add, pendingLoops, inserted, Nat.add_comm]
          rfl
        exact ⟨le_of_eq same, fun _ _ => same⟩
  | removeTimer removed =>
      change 0 + (timer.removeTimer removed).2.pendingLoops name ≤ timer.pendingLoops name + 0 ∧
        (_ → _ → 0 + (timer.removeTimer removed).2.pendingLoops name = timer.pendingLoops name + 0)
      rw [Nat.zero_add, Nat.add_zero]
      unfold removeTimer
      split
      · exact ⟨le_rfl, fun _ _ => rfl⟩
      · have values : (timer.registeredAtTimer.eraseAll fun entry => entry.name = removed).values =
            timer.registeredAtTimer.values.filter fun entry => !decide (entry.name = removed) := by
          rw [OrderedMultimap.values, OrderedMultimap.values, List.filter_map]
          rfl
        obtain ⟨atMost, same⟩ := sum_filter timer.registeredAtTimer.values
          (fun entry => !decide (entry.name = removed)) (TimerEntry.loopsOf name)
        unfold pendingLoops
        dsimp only
        rw [values]
        refine ⟨atMost, fun _ otherName => same fun entry _ isRemoved => ?_⟩
        have named : entry.name = removed := by simpa using isRemoved
        rw [TimerEntry.loopsOf, named, if_neg (Ne.symm otherName)]
  | move now callFromTimer =>
      change ((timer.due now).filter _).toList.countP _ +
          (timer.move now callFromTimer).2.pendingLoops name ≤ timer.pendingLoops name + 0 ∧
        (_ → _ → ((timer.due now).filter _).toList.countP _ +
          (timer.move now callFromTimer).2.pendingLoops name = timer.pendingLoops name + 0)
      cases isDue : timer.due now with
      | none =>
          rw [move_of_none isDue]
          exact ⟨le_of_eq (Nat.zero_add _), fun _ _ => Nat.zero_add _⟩
      | some first =>
          exact pendingLoops_move limited isDue callFromTimer
  | stop => exact ⟨le_of_eq (Nat.zero_add _), fun _ impossible => impossible.elim⟩

/-- The calls that are left, and those that are made, along all events. -/
theorem pendingLoops_runAll {name : String} {events : List TimerEvent}
    (limited : timer.Limited name) (limitedEvents : ∀ event ∈ events, event.Limited name) :
    (timer.calls events).countP (fun entry => entry.2.name = name) +
        (timer.runAll events).pendingLoops name ≤
      timer.pendingLoops name + (events.map (TimerEvent.loops name)).sum ∧
    (timer.Undisturbed name → timer.RunsUndisturbed name events →
      (timer.calls events).countP (fun entry => entry.2.name = name) +
        (timer.runAll events).pendingLoops name =
      timer.pendingLoops name + (events.map (TimerEvent.loops name)).sum) := by
  induction events generalizing timer with
  | nil => exact ⟨le_of_eq (Nat.zero_add _), fun _ _ => Nat.zero_add _⟩
  | cons event rest ih =>
      obtain ⟨limitedHead, limitedRest⟩ := List.forall_mem_cons.mp limitedEvents
      obtain ⟨stepAtMost, stepSame⟩ := @pendingLoops_step timer name event limited
      obtain ⟨atMost, same⟩ := ih (limited_step limited limitedHead) limitedRest
      rw [calls, List.countP_append, List.map_cons, List.sum_cons]
      change _ + ((timer.step event).runAll rest).pendingLoops name ≤ _ ∧
        (_ → _ → _ + ((timer.step event).runAll rest).pendingLoops name = _)
      refine ⟨by omega, fun undisturbed undisturbedEvents => ?_⟩
      obtain ⟨head, tail⟩ := undisturbedEvents
      have stepEqual := stepSame undisturbed head
      have equal := same (undisturbed_step undisturbed head) tail
      omega

/-- Whatever is registered, removed and called: no callback is called before its interval is over
since it was registered or called last. One that is registered with a loop count (not for ever) is
called once less than the loop count, and once at least, where nothing ends its registration early;
otherwise it is called less often. -/
theorem calls_of_run {name : String} {events : List TimerEvent}
    (limited : ∀ event ∈ events, event.Limited name) :
    (∀ first event last entry, events = first ++ event :: last →
      (runAll .new first).called event = some entry →
        (∃ now callFromTimer, event = .move now callFromTimer ∧ entry.1 ≤ now) ∧
        ∃ earlier setter later, first = earlier ++ setter :: later ∧
          (runAll .new earlier).SetBy setter entry) ∧
    (calls .new events).countP (fun entry => entry.2.name = name) +
        (runAll .new events).pendingLoops name ≤ (events.map (TimerEvent.loops name)).sum ∧
    (RunsUndisturbed .new name events →
      (calls .new events).countP (fun entry => entry.2.name = name) +
        (runAll .new events).pendingLoops name = (events.map (TimerEvent.loops name)).sum) := by
  obtain ⟨atMost, same⟩ := @pendingLoops_runAll .new name events nofun limited
  have empty : FuzzyTimer.new.pendingLoops name = 0 := rfl
  rw [empty, Nat.zero_add] at atMost same
  refine ⟨fun first event last entry _ isCalled => ?_, atMost, same ⟨nofun, rfl⟩⟩
  cases event with
  | move now callFromTimer =>
      obtain ⟨isDue, _⟩ := Option.filter_eq_some_iff.mp isCalled
      obtain ⟨_, past, rest, listed⟩ := due_eq_some isDue
      exact ⟨⟨now, callFromTimer, rfl, past⟩, exists_setBy (by
        rw [listed]
        exact List.mem_cons_self ..)⟩
  | addTimer => cases isCalled
  | removeTimer => cases isCalled
  | stop => cases isCalled

/-- A loop count of three makes two calls. -/
theorem calls_loopCountThree :
    let events : List TimerEvent := [.addTimer "block" (some 0) 100 3 0, .move 60 .GO_ON,
      .addTimer "other" (some 1) 10 (-1) 60, .move 100 .GO_ON, .move 110 .GO_ON,
      .removeTimer "other", .move 210 .GO_ON, .move 310 .GO_ON]
    (calls .new events).countP (fun entry => entry.2.name = "block") = 2 := by
  intro events
  have limited : ∀ event ∈ events, event.Limited "block" := by simp [events, TimerEvent.Limited]
  have undisturbed : RunsUndisturbed .new "block" events := by
    simp [events, RunsUndisturbed, Undisturbing]
  have none : (runAll .new events).pendingLoops "block" = 0 := by decide
  have balance := (calls_of_run limited).2.2 undisturbed
  rw [none, Nat.add_zero] at balance
  rw [balance]
  rfl

end Calls

end FuzzyTimer

end GradidoNode
