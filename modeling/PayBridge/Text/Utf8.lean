/-! Texts as bytes of UTF-8. -/
namespace PayBridge.Text

def utf8 (s : List Char) : List UInt8 := s.flatMap String.utf8EncodeChar

/-- The text of bytes, none if they are not UTF-8. -/
def ofUtf8? (bytes : List UInt8) : Option (List Char) :=
  (String.fromUTF8? bytes.toByteArray).map String.toList

/-- The bytes of a text are read as the text. -/
theorem ofUtf8?_utf8 (s : List Char) : ofUtf8? (utf8 s) = some s := by
  have valid : (utf8 s).toByteArray.IsValidUTF8 := (String.ofList s).isValidUTF8
  rw [ofUtf8?, String.fromUTF8?, dif_pos valid]
  exact congrArg some (String.toList_ofList (l := s))

end PayBridge.Text
