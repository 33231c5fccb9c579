/-!
# UTF-8

Files and standard input are bytes.  They are read as UTF-8, and bytes that are
not well formed are no text.
-/

namespace Delimit.Text

def decodeUtf8?
    (bytes : List UInt8) :
    Option (List Char) :=
  (String.fromUTF8? ⟨bytes.toArray⟩).map String.toList

def encodeUtf8
    (text : List Char) :
    List UInt8 :=
  (String.ofList text).toUTF8.data.toList

/-- What encodes a text decodes to it. -/
theorem decodeUtf8?_encodeUtf8
    (text : List Char) :
    decodeUtf8? (encodeUtf8 text) = some text := by
  have valid := (String.ofList text).isValidUTF8
  rw [decodeUtf8?, encodeUtf8, String.toUTF8, Array.toArray_toList,
    String.fromUTF8?, dif_pos valid, Option.map_some]
  exact congrArg some String.toList_ofList

end Delimit.Text
