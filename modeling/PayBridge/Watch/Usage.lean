import PayBridge.Watch.Arguments

/-! The help that the command prints. For a flag that the environment can give, the variable is shown with
its value. -/
namespace PayBridge.Watch.Usage

def about : Flag → String
  | .config => "Path to the TOML configuration file"
  | .recipient => "Address receiving the payment"
  | .currency => "Currency symbol, e.g. `USDC` or `SOL`"
  | .cluster => "`mainnet` or `devnet`"
  | .rpcUrl => "RPC endpoint; defaults to the cluster's public node"
  | .label => "Merchant label shown by wallets"
  | .maxAttempts => "Overrides `poll.max_attempts`"

def valueName (flag : Flag) : String :=
  String.ofList (flag.name.toList.map fun c => if c = '-' then '_' else c.toUpper)

def variableNote (environment : Environment) (flag : Flag) : String :=
  match flag.environmentName? with
  | none => ""
  | some name => " [env: " ++ name ++ "=" ++ (environment.get? name).getD "" ++ "]"

def defaultNote : Flag → String
  | .config => " [default: " ++ defaultConfig ++ "]"
  | _ => ""

/-- The two lines of a flag in the help. -/
def flagText (environment : Environment) (flag : Flag) : String :=
  let short := match flag with
    | .config => "  -c, "
    | _ => "      "
  short ++ "--" ++ flag.name ++ " <" ++ valueName flag ++ ">\n          " ++ about flag ++
    variableNote environment flag ++ defaultNote flag ++ "\n"

def text (environment : Environment) : String :=
  "Build a Solana payment request and wait for it to confirm\n\n" ++
    "Usage: paylink-watch [OPTIONS] <AMOUNT>\n\n" ++
    "Arguments:\n  <AMOUNT>  Amount in major units, e.g. `10.50`\n\n" ++
    "Options:\n" ++ String.join (Flag.all.map (flagText environment)) ++
    "  -h, --help\n          Print help\n"

end PayBridge.Watch.Usage
