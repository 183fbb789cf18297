import PayBridge.Binary64.Basic

/-! JSON values. A number is an integer of 64 bits, signed or not, or a finite double. The fields of an
object stand in the order of their keys, each key once, when they come from a text. -/
namespace PayBridge

inductive Json.Number where
  | int (n : Int)
  | float (x : Binary64)
  deriving DecidableEq, Repr

inductive Json where
  | null
  | bool (b : Bool)
  | number (n : Json.Number)
  | string (s : String)
  | array (items : List Json)
  | object (fields : List (String × Json))

instance : Inhabited Json := ⟨.null⟩

namespace Json

/-- Puts a field in its place; a key that is there already gets the new value. -/
def insert (key : String) (value : Json) : List (String × Json) → List (String × Json)
  | [] => [(key, value)]
  | (k, v) :: rest =>
    if key = k then (key, value) :: rest
    else if key < k then (key, value) :: (k, v) :: rest
    else (k, v) :: insert key value rest

def get? (key : String) : Json → Option Json
  | .object fields => fields.lookup key
  | _ => none

def string? : Json → Option String
  | .string s => some s
  | _ => none

def bool? : Json → Option Bool
  | .bool b => some b
  | _ => none

def ofNat (n : Nat) : Json := .number (.int n)

def present (fields : List (String × Option Json)) : List (String × Json) :=
  fields.filterMap fun (key, value) => value.map (key, ·)

end Json
end PayBridge
