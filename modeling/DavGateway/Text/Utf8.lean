/-
# UTF-8

Texts as bytes and back.  Reading is strict: no surrogates, no overlong forms.

* `decode?_encode` : what `encode` writes is read back.
-/

namespace DavGateway.Utf8

/-- The UTF-8 bytes of a text. -/
def encode (s : List Char) : List UInt8 := s.flatMap String.utf8EncodeChar

/-- The text of UTF-8 bytes. -/
def decode? (bytes : List UInt8) : Option (List Char) :=
  bytes.toByteArray.utf8Decode?.map Array.toList

/-- The UTF-8 bytes of a string. -/
def bytes (s : String) : List UInt8 := encode s.toList

@[simp] theorem encode_nil : encode [] = [] := rfl

@[simp] theorem encode_append (s t : List Char) : encode (s ++ t) = encode s ++ encode t :=
  List.flatMap_append

/-- What is encoded is read back. -/
theorem decode?_encode (s : List Char) : decode? (encode s) = some s := by
  have h : (encode s).toByteArray.utf8Decode? = some s.toArray := List.utf8Decode?_utf8Encode
  simp [decode?, h]

end DavGateway.Utf8
