/-!
# Text as bytes

Files and terminals take bytes. `utf8` is the encoding of a text and `ofUtf8?` reads bytes back,
refusing what is no encoding.
-/

namespace EventLog.Text

/-- The bytes that encode a text. -/
def utf8 (text : String) : List UInt8 := text.toByteArray.data.toList

/-- The text that the bytes encode, if they encode one. -/
def ofUtf8? (bytes : List UInt8) : Option String := String.fromUTF8? ⟨bytes.toArray⟩

end EventLog.Text
