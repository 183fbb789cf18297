import PayBridge.Payment.Memo
import PayBridge.Search.Schedule
import PayBridge.Text.Utf8
import PayBridge.Toml.Reader
import PayBridge.Watch.Arguments
import PayBridge.Watch.Expansion

/-! The configuration of the command: a file, where variables are expanded before it is read, and the
arguments over it. A file that is not there gives the defaults. -/
namespace PayBridge.Watch

open PayBridge.Solana (Cluster)
open PayBridge.Text

structure Settings where
  cluster : Cluster := .mainnet
  rpcUrl : Option String := none
  recipient : Option String := none
  currency : String := "USDC"
  memoLead : String := Memo.defaultLead
  label : Option String := none
  message : Option String := none
  schedule : Schedule := .standard
  deriving DecidableEq, Repr

inductive Settings.Error where
  | unreadable (path reason : String)
  | malformed
  | missingRecipient
  deriving DecidableEq, Repr

def Settings.Error.message : Settings.Error → String
  | .unreadable path reason => "cannot read " ++ path ++ ": " ++ reason
  | .malformed => "invalid configuration: TOML parse error"
  | .missingRecipient =>
    "no recipient configured (set `recipient`, --recipient or PAYLINK_RECIPIENT)"

inductive FileState where
  | absent
  | unreadable (reason : String)
  | content (bytes : List UInt8)
  deriving DecidableEq, Repr

def FileState.directory : FileState := .unreadable "Is a directory (os error 21)"

def FileState.text (path : String) : FileState → Except Settings.Error (Option String)
  | .absent => .ok none
  | .unreadable reason => .error (.unreadable path reason)
  | .content bytes =>
    match ofUtf8? bytes with
    | some text => .ok (some (String.ofList text))
    | none => .error (.unreadable path "stream did not contain valid UTF-8")

namespace Settings

def text? : Toml → Option String
  | .string s => some s
  | _ => none

/-- Reads a cluster: its name, or a table with the name as its only key and nothing under it. -/
def cluster? : Toml → Option Cluster
  | .string name => Cluster.ofSetting? name
  | .table [(name, .table [])] => Cluster.ofSetting? name
  | .table [(name, .array [])] => Cluster.ofSetting? name
  | _ => none

/-- A count as the settings of polling read it; nothing else is one. -/
def countJson : Toml → Json
  | .integer n => .number (.int n)
  | _ => .null

def setPoll? (schedule : Schedule) (key : String) (value : Toml) : Option Schedule :=
  (schedule.set key (countJson value)).toOption

/-- Reads the settings of polling: a table, or an array of them in their order. A date counts as a table
that gives none. -/
def poll? : Toml → Option Schedule
  | .table entries => entries.foldlM (fun schedule (key, value) => setPoll? schedule key value) .standard
  | .array items => (Schedule.keys.zip items).foldlM
      (fun schedule (key, value) => setPoll? schedule key value) .standard
  | .moment _ => some .standard
  | _ => none

/-- Takes one setting; keys that mean nothing are ignored. -/
def set? (config : Settings) (key : String) (value : Toml) : Option Settings :=
  match key with
  | "cluster" => (cluster? value).map fun cluster => { config with cluster }
  | "rpc_url" => (text? value).map fun url => { config with rpcUrl := some url }
  | "recipient" => (text? value).map fun recipient => { config with recipient := some recipient }
  | "currency" => (text? value).map fun currency => { config with currency }
  | "memo_prefix" => (text? value).map fun memoLead => { config with memoLead }
  | "label" => (text? value).map fun label => { config with label := some label }
  | "message" => (text? value).map fun message => { config with message := some message }
  | "poll" => (poll? value).map fun schedule => { config with schedule }
  | _ => some config

def decode? : Toml → Option Settings
  | .table entries => entries.foldlM (fun config (key, value) => set? config key value) {}
  | _ => none

/-- Reads the text of a file, without expansion. -/
def parse (text : String) : Except Settings.Error Settings :=
  match (Toml.read? text).bind decode? with
  | some config => .ok config
  | none => .error .malformed

def load (lookup : Lookup) (path : String) (file : FileState) : Except Settings.Error Settings := do
  match ← file.text path with
  | none => pure {}
  | some text => parse (expand lookup text)

def withArguments (config : Settings) (arguments : Arguments) : Settings :=
  { config with
    cluster := arguments.cluster.getD config.cluster
    rpcUrl := arguments.rpcUrl.or config.rpcUrl
    recipient := arguments.recipient.or config.recipient
    currency := arguments.currency.getD config.currency
    label := arguments.label.or config.label
    schedule.maxAttempts := arguments.maxAttempts.getD config.schedule.maxAttempts }

/-- Whether a text starts with a reference that was not resolved. -/
def isUnresolved (s : List Char) : Bool := s.head? == some '$'

/-- The node to ask: the one configured, unless it is blank or unresolved, or the public one. -/
def node (config : Settings) : String :=
  (config.rpcUrl.filter fun url => !isBlankText url.toList && !isUnresolved url.toList).getD
    config.cluster.rpcUrl

def payee (config : Settings) : Except Settings.Error String :=
  match (config.recipient.map trimmed).filter
      fun text => !text.isEmpty && !isUnresolved text.toList with
  | some text => .ok text
  | none => .error .missingRecipient

end Settings
end PayBridge.Watch
