import PayBridge.Text.Ascii
import PayBridge.Text.Utf8

/-! Percent encoding: a byte as a percent sign and two digits to base sixteen. -/
namespace PayBridge.Url

open PayBridge.Text

def hexDigit (n : Nat) : Char := if n < 10 then Char.ofNat (48 + n) else Char.ofNat (55 + n)

def percentByte (b : UInt8) : List Char := ['%', hexDigit (b.toNat / 16), hexDigit (b.toNat % 16)]

/-- Replaces the sequences of a percent sign and two digits by their bytes; a percent sign without two
digits stands for itself. -/
def percentDecode : List Char → List UInt8
  | [] => []
  | '%' :: a :: b :: rest =>
    match hexValue? a, hexValue? b with
    | some high, some low => UInt8.ofNat (16 * high + low) :: percentDecode rest
    | _, _ => String.utf8EncodeChar '%' ++ percentDecode (a :: b :: rest)
  | c :: rest => String.utf8EncodeChar c ++ percentDecode rest

/-- A character of a path that is kept as written: controls and characters beyond ASCII become bytes. -/
def pathCharacter (c : Char) : List Char :=
  if 0x20 ≤ c.toNat && c.toNat < 0x7F then [c] else (String.utf8EncodeChar c).flatMap percentByte

end PayBridge.Url
