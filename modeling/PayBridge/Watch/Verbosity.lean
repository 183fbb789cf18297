import PayBridge.Text.Ascii
import PayBridge.Text.Pieces

/-! How much the command logs. A filter is a list of directives between commas: a level for everything, or
one for the targets that start with a name. The directive with the longest name decides, of two with the
same name the later one. A filter that cannot be read counts for none. -/
namespace PayBridge.Watch

open PayBridge.Text

/-- What is logged, each level including those before it. -/
inductive Verbosity where
  | off
  | error
  | warn
  | info
  | debug
  | trace
  deriving DecidableEq, Repr

namespace Verbosity

def rank : Verbosity → Nat
  | .off => 0
  | .error => 1
  | .warn => 2
  | .info => 3
  | .debug => 4
  | .trace => 5

def all : List Verbosity := [.off, .error, .warn, .info, .debug, .trace]

def name : Verbosity → String
  | .off => "off"
  | .error => "error"
  | .warn => "warn"
  | .info => "info"
  | .debug => "debug"
  | .trace => "trace"

def shows (verbosity level : Verbosity) : Bool := level.rank ≤ verbosity.rank

/-- A level by its name, in any case, or by its rank. -/
def ofText? (text : List Char) : Option Verbosity :=
  all.find? fun level => lowered text == level.name.toList || text == decimal level.rank

def target : List Char := "paylink_watch".toList

def isTargetCharacter (c : Char) : Bool := isAlphanumeric c || c == '_' || c == ':' || c == '-'

abbrev Directive := List Char × Verbosity

/-- Reads a directive. A name alone stands for everything under it. -/
def directive? (s : List Char) : Option Directive :=
  match ofText? s with
  | some level => some ([], level)
  | none => do
    let (name, level) ← match cutAt? '=' s with
      | none => some (s, .trace)
      | some (name, []) => some (name, .trace)
      | some (name, level) => (ofText? level).map (name, ·)
    if name.isEmpty || !name.all isTargetCharacter then none else some (name, level)

def ofDirectives (directives : List Directive) : Verbosity :=
  ((directives.filter fun (name, _) => startsWith name target).foldl
    (fun (best : Directive) found => if best.1.length ≤ found.1.length then found else best)
    ([], .off)).2

/-- The level of a filter. Without one, or with one that cannot be read, it is the usual one; an empty one
leaves the errors. -/
def ofFilter : Option String → Verbosity
  | none => .info
  | some filter =>
    match ((pieces ',' filter.toList).filter (!·.isEmpty)).mapM directive? with
    | none => .info
    | some [] => .error
    | some directives => ofDirectives directives

end Verbosity
end PayBridge.Watch
