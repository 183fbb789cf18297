import PayBridge.Text.Ascii
import PayBridge.Text.Blank

/-! The clusters that payments are made on. -/
namespace PayBridge.Solana

inductive Cluster where
  | mainnet
  | devnet
  deriving DecidableEq, Repr

structure UnknownCluster where
  text : String
  deriving DecidableEq, Repr

def UnknownCluster.message (e : UnknownCluster) : String := "unknown cluster: " ++ e.text

namespace Cluster

open PayBridge.Text

def name : Cluster → String
  | .mainnet => "mainnet"
  | .devnet => "devnet"

def rpcUrl : Cluster → String
  | .mainnet => "https://api.mainnet-beta.solana.com"
  | .devnet => "https://api.devnet.solana.com"

def settingNames : List String := ["mainnet", "mainnet-beta", "devnet"]

def ofSetting? : String → Option Cluster
  | "mainnet" => some .mainnet
  | "mainnet-beta" => some .mainnet
  | "devnet" => some .devnet
  | _ => none

/-- The cluster that a user names: case and blanks around do not matter. -/
def read (text : String) : Except UnknownCluster Cluster :=
  match ofSetting? (String.ofList (lowered (trim text.toList))) with
  | some cluster => .ok cluster
  | none => .error ⟨text⟩

end Cluster
end PayBridge.Solana
