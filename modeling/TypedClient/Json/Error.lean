import TypedClient.Text.Spelling

/-!
Why a text is no JSON document, and where. Positions count code points; lines end at line feeds.
-/

namespace TypedClient.Json

inductive Cause where
  | byteOrderMark
  | expectedValue
  | expectedName
  | expectedColon
  | expectedComma
  | extraData
  | unterminatedText
  | controlCharacter
  | badEscape
  | badUnicodeEscape
  /-- An integer has more digits than can be read. -/
  | tooManyDigits
  deriving DecidableEq, Repr

namespace Cause

def message : Cause → String
  | byteOrderMark => "Unexpected UTF-8 BOM (decode using utf-8-sig)"
  | expectedValue => "Expecting value"
  | expectedName => "Expecting property name enclosed in double quotes"
  | expectedColon => "Expecting ':' delimiter"
  | expectedComma => "Expecting ',' delimiter"
  | extraData => "Extra data"
  | unterminatedText => "Unterminated string starting at"
  | controlCharacter => "Invalid control character at"
  | badEscape => "Invalid \\escape"
  | badUnicodeEscape => "Invalid \\uXXXX escape"
  | tooManyDigits => "Too many digits in an integer"

end Cause

/-- A cause with the number of characters from its place to the end of the spelling of the text. -/
structure Stop where
  cause : Cause
  left : Nat
  deriving DecidableEq, Repr

/-- A cause with its place: the offset counts from zero, line and column from one. -/
structure Error where
  cause : Cause
  line : Nat
  column : Nat
  offset : Nat
  deriving DecidableEq, Repr

namespace Error

def ofStop (chars : List Char) (stop : Stop) : Error :=
  let before := Text.codePoints (chars.take (chars.length - stop.left))
  { cause := stop.cause
    line := before.count (.char '\n') + 1
    column := (before.reverse.takeWhile (· != .char '\n')).length + 1
    offset := before.length }

def message (error : Error) : String :=
  error.cause.message ++ ": line " ++ toString error.line ++ " column " ++ toString error.column ++
    " (char " ++ toString error.offset ++ ")"

end Error

end TypedClient.Json
