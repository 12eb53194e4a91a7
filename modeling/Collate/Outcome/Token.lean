import Collate.Outcome.Basic

namespace Collate

namespace Outcome

/-- The word for an outcome in text and in stored data. -/
def token : Outcome → String
  | less => "less"
  | equivalent => "equivalent"
  | greater => "greater"
  | incomparable => "incomparable"

def name : Outcome → String
  | less => "Less"
  | equivalent => "Equivalent"
  | greater => "Greater"
  | incomparable => "Incomparable"

/-- What an outcome is called in stored data: its name in small letters. -/
def variantName (o : Outcome) : String := o.name.map Char.toLower

/-- The name in stored data as a JSON text; it has nothing to escape. -/
def toJson (o : Outcome) : String := "\"" ++ o.variantName ++ "\""

end Outcome

/-- A text that is no token, kept as it was. -/
structure UnknownToken where
  token : String
  deriving DecidableEq

def UnknownToken.message (e : UnknownToken) : String :=
  "unrecognized ordering token `" ++ e.token ++
    "` (expected less, equivalent, greater or incomparable)"

/-- Why stored data names no outcome. -/
inductive DecodeError where
  | unknownName (name : String)
  | indexOutOfRange (index : Nat)
  deriving DecidableEq

def DecodeError.message : DecodeError → String
  | .unknownName name =>
    "unknown variant `" ++ name ++ "`, expected one of " ++
      ", ".intercalate (Outcome.all.map fun o => "`" ++ o.variantName ++ "`")
  | .indexOutOfRange index =>
    "invalid value: integer `" ++ index.repr ++ "`, expected variant index 0 <= i < " ++
      Outcome.all.length.repr

namespace Outcome

/-- Reads a token, letter case and all. -/
def parse (s : String) : Except UnknownToken Outcome :=
  match all.find? (·.token == s) with
  | some o => .ok o
  | none => .error ⟨s⟩

def decodeName : String → Except DecodeError Outcome
  | "less" => .ok less
  | "equivalent" => .ok equivalent
  | "greater" => .ok greater
  | "incomparable" => .ok incomparable
  | s => .error (.unknownName s)

def decodeIndex : Nat → Except DecodeError Outcome
  | 0 => .ok less
  | 1 => .ok equivalent
  | 2 => .ok greater
  | 3 => .ok incomparable
  | i => .error (.indexOutOfRange i)

end Outcome
end Collate
