import Mathlib.Tactic.Common

/-!
# Parsed JSON

The tree a JSON parser builds. Members stand in the order of the text, and a name may stand
there twice; looking a name up finds the first.
-/

namespace GradidoNode

namespace Library

inductive Json
  | null
  | bool (value : Bool)
  | integer (value : Int)
  /-- A number that is no integer, as the bits of a double. -/
  | double (bits : UInt64)
  | string (value : String)
  | array (elements : List Json)
  | object (members : List (String × Json))

namespace Json

instance : Inhabited Json := ⟨null⟩

def isObject : Json → Bool
  | object _ => true
  | _ => false

/-- The members of an object. -/
def members : Json → List (String × Json)
  | object members => members
  | _ => []

/-- The first member of a name. -/
def member? (json : Json) (name : String) : Option Json :=
  (json.members.find? fun member => member.1 = name).map Prod.snd

/-- The member of a name, null where there is none. -/
def get (json : Json) (name : String) : Json := (json.member? name).getD null

theorem get_of_member? {json value : Json} {name : String}
    (found : json.member? name = some value) : json.get name = value := by
  rw [get, found, Option.getD_some]

/-- A value of 32 bits with sign. -/
def int? : Json → Option Int32
  | integer value => if -2147483648 ≤ value ∧ value ≤ 2147483647 then some (Int32.ofInt value) else none
  | _ => none

/-- A value of 32 bits without sign. -/
def uint? : Json → Option UInt32
  | integer value =>
      if 0 ≤ value ∧ value < UInt32.size then some (UInt32.ofNat value.toNat) else none
  | _ => none

/-- A value of 64 bits without sign. -/
def uint64? : Json → Option UInt64
  | integer value =>
      if 0 ≤ value ∧ value < UInt64.size then some (UInt64.ofNat value.toNat) else none
  | _ => none

def bool? : Json → Option Bool
  | bool value => some value
  | _ => none

def string? : Json → Option String
  | string value => some value
  | _ => none

def objectOrArray? : Json → Option Json
  | array elements => some (array elements)
  | object members => some (object members)
  | _ => none

theorem string?_eq_some_iff {json : Json} {text : String} :
    json.string? = some text ↔ json = string text := by
  cases json <;> simp [string?]

theorem objectOrArray?_eq_some_iff {json value : Json} :
    json.objectOrArray? = some value ↔
      (∃ members, json = object members ∧ value = object members) ∨
        ∃ elements, json = array elements ∧ value = array elements := by
  cases json <;> simp [objectOrArray?, eq_comm]

/-- A bool, false for everything else. -/
def asBool : Json → Bool
  | bool value => value
  | _ => false

/-- An integer, 0 for everything else. -/
def asInteger : Json → Int
  | integer value => value
  | _ => 0

/-- A string, empty for everything else. -/
def asString : Json → String
  | string value => value
  | _ => ""

end Json

end Library

end GradidoNode
