import PayBridge.Text.Pieces

/-! The environment of a process: variables in order. -/
namespace PayBridge.Watch

abbrev Environment := List (String × String)

namespace Environment

def written (entry : String × String) : List Char := entry.1.toList ++ '=' :: entry.2.toList

/-- The value of a variable: what follows its name and an equals sign. A name that holds an equals sign
itself reaches into a value. -/
def get? (environment : Environment) (name : String) : Option String :=
  let lead := name.toList ++ ['=']
  (environment.find? fun entry => Text.startsWith lead (written entry)).map fun entry =>
    String.ofList ((written entry).drop lead.length)

/-- The environment with one more variable, unless it has one of that name. -/
def add (environment : Environment) (entry : String × String) : Environment :=
  if (environment.get? entry.1).isSome then environment else environment ++ [entry]

end Environment
end PayBridge.Watch
