import PayBridge.Text.Blank
import PayBridge.Url.Basic

/-! Origins of frames. An origin is the opaque one or scheme, host and port of a web address; its text is
read as itself again, so texts can be compared. -/
namespace PayBridge

/-- The origin of a frame; `tuple` holds the text of scheme, host and port. -/
inductive Origin where
  | opaqueOrigin
  | tuple (text : String)
  deriving DecidableEq, Repr

structure Origin.Malformed where
  text : String
  deriving DecidableEq, Repr

def Origin.Malformed.message (e : Origin.Malformed) : String := "invalid origin: " ++ e.text

namespace Origin

open PayBridge.Text

def opaqueText : String := "null"

def ofUrl? (address : String) : Option Origin :=
  match Url.read? (trim address.toList) with
  | some (.web scheme host port) => some (.tuple (String.ofList (Url.originText scheme host port)))
  | _ => none

/-- The origin that a text names: the opaque one by its word, else that of a web address. -/
def parse? (text : String) : Option Origin :=
  if trimmed text = opaqueText then some .opaqueOrigin else ofUrl? (trimmed text)

def text : Origin → String
  | .opaqueOrigin => opaqueText
  | .tuple text => text

def isOpaque : Origin → Bool
  | .opaqueOrigin => true
  | .tuple _ => false

def parse (text : String) : Except Origin.Malformed Origin :=
  match parse? text with
  | some origin => .ok origin
  | none => .error ⟨text⟩

end Origin

/-- What a frame knows of where it runs. Browsers hide the parent's origin unless it is the frame's
own. -/
structure Frame where
  own : String
  referrer : Option String
  parent : Option String
  ancestors : List String
  deriving DecidableEq, Repr

structure ParentHidden where
  reason : String
  deriving DecidableEq, Repr

def ParentHidden.message (e : ParentHidden) : String :=
  "parent location is not accessible: " ++ e.reason

namespace Frame

open PayBridge.Text

/-- A frame without an address of its own: its origin is the opaque one. -/
def isInline (frame : Frame) : Bool := trimmed frame.own == Origin.opaqueText

def parentOrigin (frame : Frame) : Except ParentHidden String :=
  match frame.parent with
  | some origin => .ok origin
  | none => .error ⟨"blocked by the browser"⟩

/-- What may tell the host's origin, the most telling first: the referrer, the parent, the nearest
ancestor. -/
def candidates (frame : Frame) : List Origin :=
  [ frame.referrer.bind Origin.ofUrl?,
    frame.parent.bind Origin.parse?,
    frame.ancestors.head?.bind Origin.parse? ].filterMap id

/-- The host's origin as far as the frame can tell: the first web origin, else, for an inline frame, the
opaque one. -/
def hostOrigin? (frame : Frame) : Option Origin :=
  match frame.candidates.find? (!·.isOpaque) with
  | some origin => some origin
  | none => if frame.isInline && !frame.candidates.isEmpty then some .opaqueOrigin else none

end Frame
end PayBridge
