import TypedClient.Json.Error
import TypedClient.Number.Numeral
import TypedClient.Value.Equality

/-!
Reading a JSON document. Every step reads something from the front of the characters and hands on
the rest, together with the fact that it is shorter; a step that finds something else stops at the
place of the fault. Beyond the standard the names of the special numbers are read. Of repeated names
in an object the last value counts, at the position of the first.
-/

namespace TypedClient.Json

/-- Something read from the front of some characters, and the shorter rest. -/
structure Read (α : Type) (chars : List Char) where
  value : α
  rest : List Char
  shorter : rest.length < chars.length

/-- What was read from a rest was read from the longer characters too. -/
def Read.widen {shorterChars chars : List Char} (result : Read α shorterChars)
    (fits : shorterChars.length ≤ chars.length) : Read α chars :=
  ⟨result.value, result.rest, Nat.lt_of_lt_of_le result.shorter fits⟩

def Read.map (f : α → β) (result : Read α chars) : Read β chars :=
  ⟨f result.value, result.rest, result.shorter⟩

/-- White space between the tokens. -/
def isBlank (c : Char) : Bool :=
  c == ' ' || c == '\t' || c == '\n' || c == '\r'

/-- The characters behind white space. -/
def skipBlanks (chars : List Char) : List Char :=
  chars.dropWhile isBlank

theorem dropWhile_length_le (drops : Char → Bool) (chars : List Char) :
    (chars.dropWhile drops).length ≤ chars.length :=
  (List.dropWhile_sublist drops).length_le

theorem skipBlanks_length_le (chars : List Char) : (skipBlanks chars).length ≤ chars.length :=
  dropWhile_length_le isBlank chars

/-- The value of four hexadecimal digits. -/
def codeOf? (a b c d : Char) : Option Nat := do
  if [a, b, c, d].all fun digit => digit.toNat < 0x80 then
    let values ← [a, b, c, d].mapM (Text.digitValueIn? 16)
    return Numeral.ofDigits 16 values
  else none

/-- The code is the first half of a pair. -/
def isHighSurrogate (code : Nat) : Bool :=
  0xd800 ≤ code && code ≤ 0xdbff

/-- The code is the second half of a pair. -/
def isLowSurrogate (code : Nat) : Bool :=
  0xdc00 ≤ code && code ≤ 0xdfff

/-- The code point that two halves of a pair make up. -/
def pairOf (high low : Nat) : Text.CodePoint :=
  .char (Char.ofNat (0x10000 + (high - 0xd800) * 0x400 + (low - 0xdc00)))

def shortEscape? : Char → Option Char
  | '"' => some '"'
  | '\\' => some '\\'
  | '/' => some '/'
  | 'b' => some '\x08'
  | 'f' => some '\x0c'
  | 'n' => some '\n'
  | 'r' => some '\r'
  | 't' => some '\t'
  | _ => none

/-- Reads the escape of the second half of a pair, if one follows; the text must go on behind it. -/
def readSecondHalf (chars : List Char) : Except Stop (Option (Read Nat chars)) :=
  match chars with
  | '\\' :: 'u' :: a :: b :: c :: d :: next :: rest =>
    match codeOf? a b c d with
    | none => .error ⟨.badUnicodeEscape, rest.length + 6⟩
    | some code =>
      if isLowSurrogate code then .ok (some ⟨code, next :: rest, by simp⟩) else .ok none
  | _ => .ok none

/-- Reads the digits of an escape by code, behind its letter; the text must go on behind them. A
first half of a pair takes the escape of the second half with it, and stays alone if there is none. -/
def readCode (chars : List Char) : Except Stop (Read Text.CodePoint chars) :=
  match chars with
  | a :: b :: c :: d :: next :: rest =>
    match codeOf? a b c d with
    | none => .error ⟨.badUnicodeEscape, rest.length + 6⟩
    | some code =>
      let single := ⟨.ofCode code, next :: rest, by simp⟩
      if isHighSurrogate code then do
        match ← readSecondHalf (next :: rest) with
        | some second => return (second.map (pairOf code)).widen (by simp)
        | none => return single
      else .ok single
  | _ => .error ⟨.badUnicodeEscape, chars.length + 1⟩

/-- Reads an escape behind its backslash. `opened` holds the characters behind the opening quote of
the text. -/
def readEscape (opened chars : List Char) : Except Stop (Read Text.CodePoint chars) :=
  match chars with
  | [] => .error ⟨.unterminatedText, opened.length + 1⟩
  | 'u' :: rest => (readCode rest).map fun read => read.widen (by simp)
  | c :: rest =>
    match shortEscape? c with
    | some meant => .ok ⟨.char meant, rest, by simp⟩
    | none => .error ⟨.badEscape, chars.length + 1⟩

/-- Reads the characters of a text, which is `opened` behind its opening quote, and the closing
quote. -/
def readChars (opened chars : List Char) : Except Stop (Read (List Char) chars) :=
  match chars with
  | [] => .error ⟨.unterminatedText, opened.length + 1⟩
  | '"' :: rest => .ok ⟨[], rest, by simp⟩
  | '\\' :: rest => do
    let first ← readEscape opened rest
    have := first.shorter
    let others ← readChars opened first.rest
    return (others.map (first.value.spell ++ ·)).widen (by simp_all; omega)
  | c :: rest =>
    if c.toNat < 0x20 then .error ⟨.controlCharacter, chars.length⟩
    else do
      let others ← readChars opened rest
      return (others.map (c :: ·)).widen (by simp)
termination_by chars.length
decreasing_by
  · simp_wf; omega
  · simp_wf

/-- Reads a text behind its opening quote. -/
def readText (chars : List Char) : Except Stop (Read String chars) :=
  (readChars chars chars).map (·.map String.ofList)

def digitsValue (digits : List Char) : Nat :=
  Numeral.ofDigits 10 (digits.map fun c => c.toNat - '0'.toNat)

/-- Something at the front of some characters, which may be nothing, and the rest. -/
structure Part (α : Type) (chars : List Char) where
  value : α
  rest : List Char
  fits : rest.length ≤ chars.length

def digitsOf (chars : List Char) : Part (List Char) chars :=
  ⟨chars.takeWhile Char.isDigit, chars.dropWhile Char.isDigit, dropWhile_length_le _ chars⟩

def signOf (chars : List Char) : Part Bool chars :=
  match chars with
  | '-' :: rest => ⟨true, rest, by simp⟩
  | other => ⟨false, other, Nat.le_refl _⟩

/-- The digits behind a point, if there are any. -/
def fractionOf (chars : List Char) : Part (List Char) chars :=
  match chars with
  | '.' :: rest =>
    let digits := digitsOf rest
    if digits.value.isEmpty then ⟨[], '.' :: rest, Nat.le_refl _⟩
    else ⟨digits.value, digits.rest, Nat.le_succ_of_le digits.fits⟩
  | other => ⟨[], other, Nat.le_refl _⟩

theorem length_unsigned_le (chars : List Char) :
    (if chars.head? = some '-' ∨ chars.head? = some '+' then chars.tail else chars).length ≤
      chars.length := by
  split
  · rw [List.length_tail]
    exact Nat.sub_le _ _
  · exact Nat.le_refl _

def exponentOf (chars : List Char) : Part (Option Int) chars :=
  match chars with
  | [] => ⟨none, [], Nat.le_refl _⟩
  | mark :: rest =>
    let unsigned := if rest.head? = some '-' ∨ rest.head? = some '+' then rest.tail else rest
    let digits := digitsOf unsigned
    if (mark = 'e' ∨ mark = 'E') ∧ ¬digits.value.isEmpty then
      let n : Int := digitsValue digits.value
      ⟨some (if rest.head? = some '-' then -n else n), digits.rest,
        Nat.le_succ_of_le (Nat.le_trans digits.fits (length_unsigned_le rest))⟩
    else ⟨none, mark :: rest, Nat.le_refl _⟩

/-- The whole part of a number: a zero alone, or digits that do not start with one. -/
def wholeOf? (chars : List Char) : Option (Read (List Char) chars) :=
  match chars with
  | [] => none
  | c :: rest =>
    if c = '0' then some ⟨[c], rest, by simp⟩
    else if c.isDigit then
      let others := digitsOf rest
      some ⟨c :: others.value, others.rest, Nat.lt_succ_of_le others.fits⟩
    else none

/-- The number that its parts make up: an integer without fraction and exponent, and otherwise a
floating-point number. -/
def numberOf (negative : Bool) (whole fraction : List Char) (exponent : Option Int) :
    Option Value :=
  if fraction.isEmpty ∧ exponent.isNone then
    if whole.length > Numeral.digitLimit then none
    else
      let n : Int := digitsValue whole
      some (.int (if negative then -n else n))
  else
    some (.float (.ofDecimal negative (digitsValue (whole ++ fraction))
      (exponent.getD 0 - fraction.length)))

def readNumber (chars : List Char) : Except Stop (Read Value chars) :=
  let sign := signOf chars
  match wholeOf? sign.rest with
  | none => .error ⟨.expectedValue, chars.length⟩
  | some whole =>
    let fraction := fractionOf whole.rest
    let exponent := exponentOf fraction.rest
    match numberOf sign.value whole.value fraction.value exponent.value with
    | none => .error ⟨.tooManyDigits, chars.length⟩
    | some value =>
      .ok ⟨value, exponent.rest, by
        have := sign.fits
        have := whole.shorter
        have := fraction.fits
        have := exponent.fits
        omega⟩

def literals : List (String × Value) := [
  ("null", .null), ("true", .bool true), ("false", .bool false), ("NaN", .float .plainNaN),
  ("Infinity", .float (.infinite false)), ("-Infinity", .float (.infinite true))]

def wordAt? (word : String) (value : Value) (chars : List Char) : Option (Read Value chars) :=
  match chars with
  | [] => none
  | c :: rest =>
    if word.toList.isPrefixOf (c :: rest) then
      some ⟨value, rest.drop (word.length - 1), by
        simp only [List.length_drop, List.length_cons]
        omega⟩
    else none

mutual

def readValue (chars : List Char) : Except Stop (Read Value chars) :=
  match chars with
  | '"' :: rest => do
    let read ← readText rest
    return (read.map Value.text).widen (by simp)
  | '\x7b' :: rest =>
    match skip : skipBlanks rest with
    | '\x7d' :: after =>
      .ok ⟨.mapping [], after, by
        have := skipBlanks_length_le rest
        simp [skip] at this; simp; omega⟩
    | _ => do
      have := skipBlanks_length_le rest
      let read ← readMembers (skipBlanks rest)
      return (read.map fun members => .mapping (Entries.ofPairs members)).widen (by simp; omega)
  | '[' :: rest =>
    match skip : skipBlanks rest with
    | ']' :: after =>
      .ok ⟨.list [], after, by
        have := skipBlanks_length_le rest
        simp [skip] at this; simp; omega⟩
    | _ => do
      have := skipBlanks_length_le rest
      let read ← readItems (skipBlanks rest)
      return (read.map .list).widen (by simp; omega)
  | other =>
    match literals.findSome? fun literal => wordAt? literal.1 literal.2 other with
    | some read => .ok read
    | none => readNumber other
termination_by 2 * chars.length
decreasing_by all_goals grind

/-- Reads the members of an object from the first name on, and the closing brace. -/
def readMembers (chars : List Char) : Except Stop (Read (List (Value × Value)) chars) :=
  match chars with
  | '"' :: rest => do
    let name ← readText rest
    have := name.shorter
    have := skipBlanks_length_le name.rest
    match behindName : skipBlanks name.rest with
    | ':' :: behindColon =>
      have := congrArg List.length behindName
      have := skipBlanks_length_le behindColon
      let value ← readValue (skipBlanks behindColon)
      have := value.shorter
      have := skipBlanks_length_le value.rest
      match behindValue : skipBlanks value.rest with
      | '\x7d' :: after =>
        return ⟨[(.text name.value, value.value)], after, by
          have := congrArg List.length behindValue
          simp_all; omega⟩
      | ',' :: behindComma => do
        have := congrArg List.length behindValue
        have := skipBlanks_length_le behindComma
        let others ← readMembers (skipBlanks behindComma)
        return (others.map ((.text name.value, value.value) :: ·)).widen (by simp_all; omega)
      | other => .error ⟨.expectedComma, other.length⟩
    | other => .error ⟨.expectedColon, other.length⟩
  | _ => .error ⟨.expectedName, chars.length⟩
termination_by 2 * chars.length
decreasing_by all_goals grind

/-- Reads the items of an array from the first one on, and the closing bracket. -/
def readItems (chars : List Char) : Except Stop (Read (List Value) chars) := do
  let value ← readValue chars
  have := value.shorter
  have := skipBlanks_length_le value.rest
  match behindValue : skipBlanks value.rest with
  | ']' :: after =>
    return ⟨[value.value], after, by
      have := congrArg List.length behindValue
      simp_all; omega⟩
  | ',' :: behindComma => do
    have := congrArg List.length behindValue
    have := skipBlanks_length_le behindComma
    let others ← readItems (skipBlanks behindComma)
    return (others.map (value.value :: ·)).widen (by simp_all; omega)
  | other => .error ⟨.expectedComma, other.length⟩
termination_by 2 * chars.length + 1
decreasing_by all_goals grind

end

def readDocument (chars : List Char) : Except Stop Value := do
  match chars with
  | '\ufeff' :: _ => .error ⟨.byteOrderMark, chars.length⟩
  | _ =>
    let read ← readValue (skipBlanks chars)
    match skipBlanks read.rest with
    | [] => return read.value
    | rest => .error ⟨.extraData, rest.length⟩

def read (text : String) : Except Error Value :=
  (readDocument text.toList).mapError (Error.ofStop text.toList)

end TypedClient.Json
