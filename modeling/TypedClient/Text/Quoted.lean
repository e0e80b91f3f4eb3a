import TypedClient.Text.Printable
import TypedClient.Text.Spelling

/-!
Quoted texts, as they stand in warnings and inside the text of a list or a mapping. The quote is an
apostrophe, unless the text has an apostrophe and no double quote. The quote and the backslash are
escaped, line feed, carriage return and tab have short escapes, and every other hidden character
or half of a pair is written as its code point in hexadecimal. Bytes are quoted like ASCII text behind
the letter b.
-/

namespace TypedClient.Text

/-- The lower-case hexadecimal digits of a number, with zeros in front up to a width. -/
def hexDigits (width code : Nat) : List Char :=
  let digits := Nat.toDigits 16 code
  List.replicate (width - digits.length) '0' ++ digits

def quoteFor (chars : List Char) : Char :=
  if chars.contains '\x27' && !chars.contains '"' then '"' else '\x27'

/-- The escaped form of one character between two quotes. -/
def escapeQuoted (quote c : Char) : List Char :=
  if c = quote ∨ c = '\\' then ['\\', c]
  else if c = '\n' then ['\\', 'n']
  else if c = '\r' then ['\\', 'r']
  else if c = '\t' then ['\\', 't']
  else if isPrintable c then [c]
  else if c.toNat < 0x100 then '\\' :: 'x' :: hexDigits 2 c.toNat
  else if c.toNat < 0x10000 then '\\' :: 'u' :: hexDigits 4 c.toNat
  else '\\' :: 'U' :: hexDigits 8 c.toNat

/-- The escaped form of a code point. A half of a pair has one also outside of quotes, wherever it cannot
be printed. -/
def escapePoint (escapeChar : Char → List Char) : CodePoint → List Char
  | .char c => escapeChar c
  | .half index => '\\' :: 'u' :: hexDigits 4 (CodePoint.half index).code

def quoted (s : String) : String :=
  let quote := quoteFor s.toList
  String.ofList
    (quote :: (codePoints s.toList).flatMap (escapePoint (escapeQuoted quote)) ++ [quote])

/-- The text without halves of pairs: their codes stand for them. -/
def withoutHalves (s : String) : String :=
  String.ofList ((codePoints s.toList).flatMap (escapePoint fun c => spelled [c]))

def quotedBytes (bytes : List UInt8) : String :=
  let chars := bytes.map fun byte => Char.ofNat byte.toNat
  let quote := quoteFor chars
  let escape (c : Char) : List Char :=
    if c.toNat < 0x7f then escapeQuoted quote c else '\\' :: 'x' :: hexDigits 2 c.toNat
  String.ofList ('b' :: quote :: chars.flatMap escape ++ [quote])

end TypedClient.Text
