import LinkEmbed.Json.Basic

/-!
# What is wrong with a JSON text or value

The causes for which a text is no JSON, or a value does not fit what is wanted, with their wording. A cause
found while a text was read comes with a location: a line counted from one, and the number of bytes before
it on that line.
-/

namespace LinkEmbed.Json

/-- A place in a text. -/
structure Location where
  line : Nat := 1
  column : Nat := 0
deriving DecidableEq, Repr, Inhabited

/-- A cause for which a text is no JSON. -/
inductive SyntaxCause where
  | endInList
  | endInObject
  | endInText
  | endInValue
  /-- The text ends after a comma in an object, where a name is wanted. -/
  | endAfterComma
  /-- The text ends inside a number. -/
  | endInNumber
  | colonWanted
  | listCommaWanted
  | objectCommaWanted
  | wordWanted
  | valueWanted
  | badEscape
  | badNumber
  | numberOutOfRange
  | controlCharacter
  | nameWanted
  | loneSurrogate
  /-- A comma before the end of a list. -/
  | listTrailingComma
  /-- A comma before the end of an object. -/
  | objectTrailingComma
  | trailingCharacters
  | surrogateBrokenOff
  | tooDeep
deriving DecidableEq, Repr

namespace SyntaxCause

/-- The wording of a cause. -/
def message : SyntaxCause → String
  | .endInList => "EOF while parsing a list"
  | .endInObject => "EOF while parsing an object"
  | .endInText => "EOF while parsing a string"
  | .endInValue => "EOF while parsing a value"
  | .endAfterComma => "EOF while parsing a value"
  | .endInNumber => "EOF while parsing a value"
  | .colonWanted => "expected `:`"
  | .listCommaWanted => "expected `,` or `]`"
  | .objectCommaWanted => "expected `,` or `\x7d`"
  | .wordWanted => "expected ident"
  | .valueWanted => "expected value"
  | .badEscape => "invalid escape"
  | .badNumber => "invalid number"
  | .numberOutOfRange => "number out of range"
  | .controlCharacter => "control character (\\u0000-\\u001F) found while parsing a string"
  | .nameWanted => "key must be a string"
  | .loneSurrogate => "lone leading surrogate in hex escape"
  | .listTrailingComma => "trailing comma"
  | .objectTrailingComma => "trailing comma"
  | .trailingCharacters => "trailing characters"
  | .surrogateBrokenOff => "unexpected end of hex escape"
  | .tooDeep => "recursion limit exceeded"

/-- The cause reported when the value is passed over and not wanted: nothing but the bare grammar is
looked at then. -/
def whenSkipped : SyntaxCause → SyntaxCause
  | .endAfterComma => .endInObject
  | .endInNumber => .badNumber
  | .listTrailingComma => .valueWanted
  | .objectTrailingComma => .nameWanted
  | c => c

/-- The cause reported when the enclosing list has to end here. -/
def whenClosing : SyntaxCause → SyntaxCause
  | .endInList => .endInList
  | .listTrailingComma => .listTrailingComma
  | _ => .trailingCharacters

end SyntaxCause

/-- A cause for which a value does not fit what is wanted. -/
inductive Mismatch where
  /-- A value of another kind than `wanted`. -/
  | wrongKind (found wanted : String)
  | wrongValue (found wanted : String)
  | wrongLength (found : Nat) (wanted : String)
  | missingField (name : String)
  | duplicateField (name : String)
  | unknownVariant (name : String) (known : List String)
  /-- Neither a number nor a text. -/
  | neitherNumberNorText
  /-- A text that spells no number. -/
  | noNumber (text : String)
  /-- A number outside the range of its field. -/
  | outOfRange (value : Binary64)
deriving DecidableEq, Repr

/-- The names of the variants in a message. -/
def quotedNames (names : List String) : String :=
  ", ".intercalate (names.map fun n => "`" ++ n ++ "`")

/-- The wording of a mismatch. -/
def Mismatch.message : Mismatch → String
  | .wrongKind found wanted => "invalid type: " ++ found ++ ", expected " ++ wanted
  | .wrongValue found wanted => "invalid value: " ++ found ++ ", expected " ++ wanted
  | .wrongLength found wanted => "invalid length " ++ toString found ++ ", expected " ++ wanted
  | .missingField name => "missing field `" ++ name ++ "`"
  | .duplicateField name => "duplicate field `" ++ name ++ "`"
  | .unknownVariant name known =>
    "unknown variant `" ++ name ++ "`, expected one of " ++ quotedNames known
  | .neitherNumberNorText => "data did not match any variant of untagged enum NumberOrString"
  | .noNumber s => "expected a number, found `" ++ s ++ "`"
  | .outOfRange x => "number out of range: " ++ x.text

/-- A value found where one of another kind is wanted. -/
def mismatch (found : Json) (wanted : String) : Mismatch := .wrongKind found.describe wanted

/-- What is wrong, and where in the text if a text was read. -/
inductive Error where
  | malformed (cause : SyntaxCause) (location : Location)
  | unfit (cause : Mismatch) (location : Option Location)
deriving DecidableEq, Repr

namespace Error

/-- A location as the end of a message. -/
def locationText (l : Location) : String :=
  " at line " ++ toString l.line ++ " column " ++ toString l.column

/-- The wording of an error. -/
def message : Error → String
  | .malformed cause location => cause.message ++ locationText location
  | .unfit cause none => cause.message
  | .unfit cause (some location) => cause.message ++ locationText location

end Error

end LinkEmbed.Json
