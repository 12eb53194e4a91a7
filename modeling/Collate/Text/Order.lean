namespace Collate.Text

/-- The UTF-8 encoding of a text. -/
def bytes (s : String) : List UInt8 := s.toList.flatMap String.utf8EncodeChar

def compare (s t : String) : Ordering := List.compareLex Ord.compare (bytes s) (bytes t)

/-- Whether two texts differ at most in the case of the letters `a` to `z`. -/
def sameLetters (s t : String) : Bool := s.toList.map Char.toLower == t.toList.map Char.toLower

end Collate.Text
