import PayBridge.Binary64.Basic

/-! TOML values. Integers have 64 bits with sign; dates and times are kept as they are written. -/
namespace PayBridge

inductive Toml where
  | string (s : String)
  | integer (n : Int)
  | float (x : Binary64)
  | bool (b : Bool)
  | moment (text : String)
  | array (items : List Toml)
  | table (entries : List (String × Toml))

end PayBridge
