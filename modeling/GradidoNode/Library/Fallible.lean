import Mathlib.Tactic.Common

/-!
# Operations that may fail

An operation on a state may fail, and what it changed before it failed stays. Operations
one after the other, operations on a part of the state, and what a whole sequence leaves
alone.
-/

namespace GradidoNode

namespace Library

variable {Error State Part View Value Result Item : Type*}

abbrev Fallible (Error State Value : Type*) := State → Except Error Value × State

namespace Fallible

/-- An outcome that changes nothing. -/
def outcome (result : Except Error Value) : Fallible Error State Value :=
  fun state => (result, state)

/-- The second operation runs where the first one succeeds. -/
def andThen (first : Fallible Error State Value) (second : Value → Fallible Error State Result) :
    Fallible Error State Result := fun state =>
  match first state with
  | (.ok value, next) => second value next
  | (.error error, next) => (.error error, next)

/-- An operation on a part of the state. -/
def onPart (get : State → Part) (set : State → Part → State)
    (operation : Fallible Error Part Value) : Fallible Error State Value := fun state =>
  ((operation (get state)).1, set state (operation (get state)).2)

/-- The failure of an operation becomes its value. -/
def attempt (operation : Fallible Error State Value) :
    Fallible Error State (Except Error Value) := fun state =>
  (.ok (operation state).1, (operation state).2)

/-- The operation for one item after the other. -/
def forEach (operation : Item → Fallible Error State Unit) :
    List Item → Fallible Error State Unit
  | [] => outcome (.ok ())
  | item :: rest => (operation item).andThen fun _ => forEach operation rest

/-- The second step goes on where the first succeeded. -/
theorem andThen_of_ok {first : Fallible Error State Value}
    {second : Value → Fallible Error State Result} {state next : State} {value : Value}
    (success : first state = (.ok value, next)) :
    first.andThen second state = second value next := by
  simp only [andThen, success]

/-- An error of the first step is that of both. -/
theorem andThen_of_error {first : Fallible Error State Value}
    {second : Value → Fallible Error State Result} {state next : State} {error : Error}
    (failure : first state = (.error error, next)) :
    first.andThen second state = (.error error, next) := by
  simp only [andThen, failure]

/-- A value given is handed on. -/
theorem outcome_ok_andThen (value : Value) (second : Value → Fallible Error State Result) :
    (outcome (.ok value)).andThen second = second value := rfl

/-- The whole succeeds where both operations do. -/
theorem andThen_ok_iff {first : Fallible Error State Value}
    {second : Value → Fallible Error State Result} {state final : State} {result : Result} :
    first.andThen second state = (.ok result, final) ↔
      ∃ value next, first state = (.ok value, next) ∧ second value next = (.ok result, final) := by
  rcases taken : first state with ⟨error | value, next⟩
  · rw [andThen_of_error taken]
    simp
  · rw [andThen_of_ok taken]
    constructor
    · exact fun success => ⟨value, next, rfl, success⟩
    · rintro ⟨_, _, ⟨⟩, success⟩
      exact success

/-- An operation on a part of the state succeeds exactly if it does on the part. -/
theorem onPart_ok_iff {get : State → Part} {set : State → Part → State}
    {operation : Fallible Error Part Value} {state next : State} {value : Value} :
    onPart get set operation state = (.ok value, next) ↔
      ∃ part, operation (get state) = (.ok value, part) ∧ next = set state part := by
  unfold onPart
  rw [Prod.mk.injEq]
  constructor
  · rintro ⟨success, rfl⟩
    exact ⟨_, Prod.ext success rfl, rfl⟩
  · rintro ⟨part, success, rfl⟩
    rw [success]
    exact ⟨rfl, rfl⟩

@[simp] theorem forEach_nil (operation : Item → Fallible Error State Unit) (state : State) :
    forEach operation [] state = (.ok (), state) := rfl

/-- One turn of the loop. -/
theorem forEach_cons (operation : Item → Fallible Error State Unit) (item : Item)
    (rest : List Item) :
    forEach operation (item :: rest) = (operation item).andThen fun _ => forEach operation rest :=
  rfl

/-- A loop over two lists, one behind the other. -/
theorem forEach_append (operation : Item → Fallible Error State Unit) (first second : List Item) :
    forEach operation (first ++ second) =
      (forEach operation first).andThen fun _ => forEach operation second := by
  induction first with
  | nil => rfl
  | cons item rest ih =>
      funext state
      rw [List.cons_append, forEach_cons, forEach_cons, ih]
      rcases taken : operation item state with ⟨error | _, next⟩
      · have failed : ((operation item).andThen fun _ => forEach operation rest) state =
            (.error error, next) := andThen_of_error taken
        rw [andThen_of_error taken, andThen_of_error failed]
      · rw [andThen_of_ok taken]
        unfold andThen
        rw [taken]

/-- An operation that always succeeds and does to the state what a function does to a view of
it, does so for a list of items as well. -/
theorem forEach_follows {operation : Item → Fallible Error State Unit}
    {follows : View → State → Prop} {advance : View → Item → View} {items : List Item}
    (succeeds : ∀ item ∈ items, ∀ view state, follows view state →
      ∃ next, operation item state = (.ok (), next) ∧ follows (advance view item) next)
    {view : View} {state : State} (start : follows view state) :
    ∃ next, forEach operation items state = (.ok (), next) ∧
      follows (items.foldl advance view) next := by
  induction items generalizing view state with
  | nil => exact ⟨state, rfl, start⟩
  | cons item rest ih =>
      obtain ⟨next, success, following⟩ := succeeds item (List.mem_cons_self ..) view state start
      rw [forEach_cons, andThen_of_ok success]
      exact ih (fun other member => succeeds other (List.mem_cons_of_mem _ member)) following

/-- In a loop that succeeds, the operation succeeded for each item, in a state in which what
the operation keeps still held. -/
theorem exists_of_forEach_ok {operation : Item → Fallible Error State Unit}
    {valid : State → Prop} {items : List Item}
    (keeps : ∀ item ∈ items, ∀ state, valid state → valid (operation item state).2)
    {state final : State} (start : valid state)
    (success : forEach operation items state = (.ok (), final)) {item : Item}
    (member : item ∈ items) :
    ∃ before after, valid before ∧ operation item before = (.ok (), after) := by
  induction items generalizing state with
  | nil => cases member
  | cons head rest ih =>
      rw [forEach_cons] at success
      obtain ⟨_, next, taken, later⟩ := Iff.mp andThen_ok_iff success
      rcases List.mem_cons.mp member with rfl | inRest
      · exact ⟨state, next, start, taken⟩
      · have stillValid := keeps head (List.mem_cons_self ..) state start
        rw [taken] at stillValid
        exact ih (fun other inside => keeps other (List.mem_cons_of_mem _ inside)) stillValid
          later inRest

/-- The operation leaves what the view shows alone, whether it fails or not. -/
def Keeps (view : State → View) (operation : Fallible Error State Value) : Prop :=
  ∀ state, view (operation state).2 = view state

/-- Giving an outcome changes nothing. -/
theorem keeps_outcome (view : State → View) (result : Except Error Value) :
    Keeps view (outcome result : Fallible Error State Value) := fun _ => rfl

/-- Two steps in a row keep what both keep. -/
theorem Keeps.andThen {view : State → View} {first : Fallible Error State Value}
    {second : Value → Fallible Error State Result} (keepsFirst : Keeps view first)
    (keepsSecond : ∀ value, Keeps view (second value)) : Keeps view (first.andThen second) := by
  intro state
  have kept := keepsFirst state
  rcases taken : first state with ⟨error | value, next⟩
  · rw [andThen_of_error taken, ← kept, taken]
  · rw [andThen_of_ok taken, keepsSecond value next, ← kept, taken]

/-- A second operation that leaves the view alone shows what the first one left. -/
theorem view_andThen {view : State → View} (first : Fallible Error State Value)
    {second : Value → Fallible Error State Result} (keeps : ∀ value, Keeps view (second value))
    (state : State) : view (first.andThen second state).2 = view (first state).2 := by
  rcases taken : first state with ⟨error | value, next⟩
  · rw [andThen_of_error taken]
  · rw [andThen_of_ok taken, keeps value next]

/-- Changing a part does not show in a view that does not look at it. -/
theorem keeps_onPart {view : State → View} {get : State → Part} {set : State → Part → State}
    (apart : ∀ state part, view (set state part) = view state)
    (operation : Fallible Error Part Value) : Keeps view (onPart get set operation) :=
  fun state => apart state _

/-- What holds before the operation holds after it, whether it fails or not. -/
def Maintains (holds : State → Prop) (operation : Fallible Error State Value) : Prop :=
  ∀ state, holds state → holds (operation state).2

/-- Giving an outcome maintains everything. -/
theorem maintains_outcome (holds : State → Prop) (result : Except Error Value) :
    Maintains holds (outcome result : Fallible Error State Value) := fun _ held => held

/-- Two steps in a row maintain what both maintain. -/
theorem Maintains.andThen {holds : State → Prop} {first : Fallible Error State Value}
    {second : Value → Fallible Error State Result} (maintainsFirst : Maintains holds first)
    (maintainsSecond : ∀ value, Maintains holds (second value)) :
    Maintains holds (first.andThen second) := by
  intro state held
  have still := maintainsFirst state held
  rcases taken : first state with ⟨error | value, next⟩
  · rw [taken] at still
    rw [andThen_of_error taken]
    exact still
  · rw [taken] at still
    rw [andThen_of_ok taken]
    exact maintainsSecond value next still

/-- A loop maintains what its operation does. -/
theorem Maintains.forEach {holds : State → Prop} {operation : Item → Fallible Error State Unit}
    (maintains : ∀ item, Maintains holds (operation item)) (items : List Item) :
    Maintains holds (forEach operation items) := by
  induction items with
  | nil => exact maintains_outcome holds _
  | cons item rest ih => exact (maintains item).andThen fun _ => ih

end Fallible

end Library

end GradidoNode
