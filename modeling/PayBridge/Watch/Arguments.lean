import PayBridge.Solana.Cluster
import PayBridge.Text.Pieces
import PayBridge.Watch.Environment
import PayBridge.Word

/-! The arguments of the command: the amount, and flags with a value each. Arguments are taken one after
the other, and the first fault ends the reading. The value of a flag is judged late, when the next argument
is taken or there is none, so a flag that is not known goes before the bad value of the flag ahead of it.
For flags that are absent the environment is asked. -/
namespace PayBridge.Watch

open PayBridge.Solana (Cluster)
open PayBridge.Text

/-- Why arguments are refused. Asking for help counts as one of the reasons. -/
inductive ArgumentError where
  | unknownArgument
  | tooManyValues
  | invalidValue
  | valueValidation
  | argumentConflict
  | missingRequiredArgument
  | displayHelp
  deriving DecidableEq, Repr

structure Arguments where
  amount : String
  config : String
  recipient : Option String
  currency : Option String
  cluster : Option Cluster
  rpcUrl : Option String
  label : Option String
  maxAttempts : Option Nat
  deriving DecidableEq, Repr

inductive Flag where
  | config
  | recipient
  | currency
  | cluster
  | rpcUrl
  | label
  | maxAttempts
  deriving DecidableEq, Repr

namespace Flag

/-- In the order the environment is asked. -/
def all : List Flag := [.config, .recipient, .currency, .cluster, .rpcUrl, .label, .maxAttempts]

def name : Flag → String
  | .config => "config"
  | .recipient => "recipient"
  | .currency => "currency"
  | .cluster => "cluster"
  | .rpcUrl => "rpc-url"
  | .label => "label"
  | .maxAttempts => "max-attempts"

def ofName? (name : String) : Option Flag := all.find? (·.name == name)

def environmentName? : Flag → Option String
  | .config => some "CONFIG"
  | .recipient => some "PAYLINK_RECIPIENT"
  | .cluster => some "PAYLINK_CLUSTER"
  | .rpcUrl => some "SOLANA_RPC_URL"
  | _ => none

end Flag

def defaultConfig : String := "paylink.toml"

structure Draft where
  amount : Option String := none
  config : Option String := none
  recipient : Option String := none
  currency : Option String := none
  cluster : Option Cluster := none
  rpcUrl : Option String := none
  label : Option String := none
  maxAttempts : Option Nat := none
  deriving DecidableEq, Repr

namespace Draft

def has (draft : Draft) : Flag → Bool
  | .config => draft.config.isSome
  | .recipient => draft.recipient.isSome
  | .currency => draft.currency.isSome
  | .cluster => draft.cluster.isSome
  | .rpcUrl => draft.rpcUrl.isSome
  | .label => draft.label.isSome
  | .maxAttempts => draft.maxAttempts.isSome

def count? (text : String) : Option Nat := do
  let n ← match text.toList with
    | '+' :: digits => numeral? 10 digits
    | '-' :: digits => (numeral? 10 digits).filter (· == 0)
    | digits => numeral? 10 digits
  if n < 2 ^ 32 then some n else none

/-- Gives a flag its value, once. -/
def assign (draft : Draft) (flag : Flag) (value : String) : Except ArgumentError Draft :=
  if draft.has flag then .error .argumentConflict
  else match flag with
    | .config =>
      if value.isEmpty then .error .invalidValue else .ok { draft with config := some value }
    | .recipient => .ok { draft with recipient := some value }
    | .currency => .ok { draft with currency := some value }
    | .cluster =>
      match Cluster.read value with
      | .ok cluster => .ok { draft with cluster := some cluster }
      | .error _ => .error .valueValidation
    | .rpcUrl => .ok { draft with rpcUrl := some value }
    | .label => .ok { draft with label := some value }
    | .maxAttempts =>
      match count? value with
      | some n => .ok { draft with maxAttempts := some n }
      | none => .error .valueValidation

def fill (environment : Environment) (draft : Draft) : Except ArgumentError Draft :=
  Flag.all.foldlM (fun draft flag =>
    if draft.has flag then .ok draft
    else match flag.environmentName?.bind environment.get? with
      | some value => draft.assign flag value
      | none => .ok draft) draft

def finish (draft : Draft) : Except ArgumentError Arguments :=
  match draft.amount with
  | none => .error .missingRequiredArgument
  | some amount => .ok
    { draft with amount, config := draft.config.getD defaultConfig }

end Draft

/-- How one argument looks: the end of the flags, a flag with or without its value attached, a request
for help, something with dashes that is neither, or a value. -/
inductive Shape where
  | escape
  | flag (flag : Flag) (attached : Option String)
  | help
  | helpWithValue
  | unknown
  | value (text : String)
  deriving DecidableEq, Repr

def longShape (s : List Char) : Shape :=
  let (name, attached) := match cutAt? '=' s with
    | some (name, value) => (name, some (String.ofList value))
    | none => (s, none)
  let name := String.ofList name
  match Flag.ofName? name with
  | some flag => .flag flag attached
  | none =>
    if name = "help" then (if attached.isSome then .helpWithValue else .help) else .unknown

def Shape.ofText (text : String) : Shape :=
  match text.toList with
  | ['-', '-'] => .escape
  | '-' :: '-' :: rest => longShape rest
  | ['-'] => .value text
  | ['-', 'c'] => .flag .config none
  | '-' :: 'c' :: '=' :: rest => .flag .config (some (String.ofList rest))
  | '-' :: 'c' :: rest => .flag .config (some (String.ofList rest))
  | '-' :: 'h' :: _ => .help
  | '-' :: _ => .unknown
  | _ => .value text

/-- A flag whose value is not judged yet, with the value if it was given. -/
structure Pending where
  flag : Flag
  value : Option String
  deriving DecidableEq, Repr

/-- The reading in between two arguments. After an escape everything is a value of its own. -/
structure ArgumentState where
  draft : Draft := {}
  pending : Option Pending := none
  escaped : Bool := false
  deriving DecidableEq, Repr

namespace ArgumentState

def settle (state : ArgumentState) : Except ArgumentError ArgumentState :=
  match state.pending with
  | none => .ok state
  | some ⟨_, none⟩ => .error .invalidValue
  | some ⟨flag, some value⟩ =>
    (state.draft.assign flag value).map fun draft => { state with draft, pending := none }

/-- Takes a text that stands for itself: the amount, of which there is one. -/
def takeAmount (state : ArgumentState) (text : String) : Except ArgumentError ArgumentState :=
  if state.draft.amount.isSome then .error .unknownArgument
  else state.settle.map fun state => { state with draft.amount := some text }

/-- Takes a text: the value of the flag that waits for one, or the amount. -/
def takeValue (state : ArgumentState) (text : String) : Except ArgumentError ArgumentState :=
  match state.pending with
  | some ⟨flag, none⟩ => .ok { state with pending := some ⟨flag, some text⟩ }
  | _ => state.takeAmount text

def take (state : ArgumentState) (text : String) : Except ArgumentError ArgumentState :=
  if state.escaped then state.takeAmount text
  else match Shape.ofText text with
    | .escape => .ok { state with escaped := true }
    | .flag flag none => state.settle.map fun state => { state with pending := some ⟨flag, none⟩ }
    | .flag flag (some value) => do
      let state ← state.settle
      let draft ← state.draft.assign flag value
      pure { state with draft }
    | .help => state.settle.bind fun _ => .error .displayHelp
    | .helpWithValue => .error .tooManyValues
    | .unknown => .error .unknownArgument
    | .value text => state.takeValue text

end ArgumentState

def Arguments.read (environment : Environment) (texts : List String) :
    Except ArgumentError Arguments := do
  let state ← texts.foldlM ArgumentState.take {}
  let state ← state.settle
  let draft ← state.draft.fill environment
  draft.finish

end PayBridge.Watch
