import PayBridge.Binary64.Shortest
import PayBridge.Json.Basic
import PayBridge.Text.Quoted

/-! Reading typed data out of JSON values, and what is said when a value has the wrong shape. Fields are
looked at in the order of the object's keys, so of two faults the one with the smaller key is reported;
absent fields are reported last. -/
namespace PayBridge.Json

inductive Found where
  | null
  | bool (b : Bool)
  | integer (n : Int)
  | float (x : Binary64)
  | string (s : String)
  | sequence
  | map
  deriving DecidableEq, Repr

inductive ShapeError where
  | wrongType (found : Found) (expected : String)
  | wrongValue (found : Found) (expected : String)
  | missingField (name : String)
  | unknownVariant (name : String) (known : List String)
  | tooMany (length : Nat)
  | tooFew (length : Nat) (expected : String)
  | refused (reason : String)
  deriving DecidableEq, Repr

def found : Json → Found
  | .null => .null
  | .bool b => .bool b
  | .number (.int n) => .integer n
  | .number (.float x) => .float x
  | .string s => .string s
  | .array _ => .sequence
  | .object _ => .map

def Found.text : Found → String
  | .null => "null"
  | .bool b => "boolean `" ++ toString b ++ "`"
  | .integer n => "integer `" ++ toString n ++ "`"
  | .float x => "floating point `" ++ x.display ++ "`"
  | .string s => "string " ++ Text.quoted s
  | .sequence => "sequence"
  | .map => "map"

def ShapeError.message : ShapeError → String
  | .wrongType found expected => "invalid type: " ++ found.text ++ ", expected " ++ expected
  | .wrongValue found expected => "invalid value: " ++ found.text ++ ", expected " ++ expected
  | .missingField name => "missing field `" ++ name ++ "`"
  | .unknownVariant name known =>
    "unknown variant `" ++ name ++ "`, expected one of " ++
      String.intercalate ", " (known.map fun variant => "`" ++ variant ++ "`")
  | .tooMany length => "invalid length " ++ toString length ++ ", expected fewer elements in array"
  | .tooFew length expected => "invalid length " ++ toString length ++ ", expected " ++ expected
  | .refused reason => reason

abbrev Decoder (α : Type) := Json → Except ShapeError α

namespace Decoder

def string : Decoder String
  | .string s => .ok s
  | value => .error (.wrongType value.found "a string")

def bool : Decoder Bool
  | .bool b => .ok b
  | value => .error (.wrongType value.found "a boolean")

/-- An integer from zero to below `2 ^ bits`, called `name` in errors. -/
def unsigned (bits : Nat) (name : String) : Decoder Nat
  | .number (.int n) =>
    if 0 ≤ n ∧ n < 2 ^ bits then .ok n.toNat else .error (.wrongValue (.integer n) name)
  | value => .error (.wrongType value.found name)

/-- Null is the absent value. -/
def nullable {α : Type} (decode : Decoder α) : Decoder (Option α)
  | .null => .ok none
  | value => (decode value).map some

def items {α : Type} (decode : Decoder α) : List Json → Except ShapeError (List α)
  | [] => .ok []
  | item :: rest => do
    let first ← decode item
    let others ← items decode rest
    pure (first :: others)

def list {α : Type} (decode : Decoder α) : Decoder (List α)
  | .array values => items decode values
  | value => .error (.wrongType value.found "a sequence")

def field {α : Type} (key : String) (decode : Decoder α) : Decoder (Option α) := fun value =>
  match value.get? key with
  | none => .ok none
  | some value => (decode value).map some

def optionalField {α : Type} (key : String) (decode : Decoder α) : Decoder (Option α) := fun value =>
  (field key (nullable decode) value).map Option.join

def required {α : Type} (key : String) : Option α → Except ShapeError α
  | some value => .ok value
  | none => .error (.missingField key)

/-- A record whose fields all have defaults: an object, where other keys are ignored, or an array of the
fields in their order, where the last ones may be left out. -/
def record {α : Type} (name : String) (keys : List String)
    (set : α → String → Json → Except ShapeError α) (defaults : α) : Decoder α
  | .object fields => fields.foldlM (fun r (key, value) => set r key value) defaults
  | .array values => do
    let r ← (keys.zip values).foldlM (fun r (key, value) => set r key value) defaults
    if keys.length < values.length then throw (.tooMany values.length)
    pure r
  | value => .error (.wrongType value.found ("struct " ++ name))

end Decoder
end PayBridge.Json
