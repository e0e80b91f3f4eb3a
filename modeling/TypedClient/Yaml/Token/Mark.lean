import TypedClient.Number.Numeral
import TypedClient.Yaml.Token.Basic
import TypedClient.Yaml.Token.Cursor

namespace TypedClient.Yaml.Mark

private def ensure (holds : Bool) (otherwise : Malformed) : Except Fault Unit :=
  if holds then .ok () else .error (.malformed otherwise)

def endsName (c : Char) : Bool :=
  isGap c || ['?', ':', ',', ']', '\x7d', '%', '@', '\x60'].contains c

/-- Reads the name of an anchor or an alias behind its indicator. -/
def readName (cursor : Cursor) : Except Fault (String × Cursor) := do
  let (name, behind) := cursor.span isWordChar
  ensure (!name.isEmpty && endsName behind.peek) .badAnchor
  return (String.ofList name, behind)

def isSuffixChar (c : Char) : Bool :=
  c.isAlphanum || "-;/?:@&=+$,_.!~*\x27()[]".toList.contains c

/-- Reads escaped octets as far as they go. -/
def readOctets (cursor : Cursor) : Except Fault (List Nat × Cursor) :=
  repeatStep (fun (state : List Nat × Cursor) => state.2.left)
    (fun (reversed, cursor) =>
      match cursor.rest with
      | '%' :: high :: low :: _ =>
        let value? (c : Char) := if c.toNat < 0x80 then Text.digitValueIn? 16 c else none
        match value? high, value? low with
        | some h, some l => .ok (.inl ((16 * h + l) :: reversed, cursor.advance 3))
        | _, _ => .error (.malformed .badTag)
      | '%' :: _ => .error (.malformed .badTag)
      | _ => .ok (.inr (reversed.reverse, cursor)))
    (fun (reversed, cursor) => .ok (reversed.reverse, cursor)) ([], cursor)

def readSuffix (otherwise : Malformed) (cursor : Cursor) : Except Fault (String × Cursor) := do
  let (text, behind) ← repeatStep (fun (state : List Char × Cursor) => state.2.left)
    (fun (text, cursor) =>
      let (taken, behind) := cursor.span isSuffixChar
      if behind.peek == '%' then do
        let (octets, behind) ← readOctets behind
        match String.fromUTF8? ⟨(octets.map UInt8.ofNat).toArray⟩ with
        | some decoded => return .inl (text ++ taken ++ decoded.toList, behind)
        | none => .error (.malformed otherwise)
      else .ok (.inr (text ++ taken, behind)))
    .ok ([], cursor)
  ensure (behind.index != cursor.index) otherwise
  return (String.ofList text, behind)

/-- Reads the handle of a tag: an exclamation mark, which alone or with a word and another one makes
a handle. -/
def readHandle (otherwise : Malformed) (cursor : Cursor) : Except Fault (String × Cursor) := do
  ensure (cursor.peek == '!') otherwise
  if cursor.peekAt 1 == ' ' then return ("!", cursor.next)
  let (word, behind) := cursor.next.span isWordChar
  ensure (behind.peek == '!') otherwise
  return ("!" ++ String.ofList word ++ "!", behind.next)

/-- A second exclamation mark stands in front of the next space. -/
def hasHandle (cursor : Cursor) : Bool :=
  ((cursor.next.rest.takeWhile fun c => !isSpaceOrBreak c).contains '!')

def readTag (cursor : Cursor) : Except Fault (Token × Cursor) := do
  let following := cursor.peekAt 1
  let (token, behind) ←
    if following == '<' then do
      let (suffix, behind) ← readSuffix .badTag (cursor.advance 2)
      ensure (behind.peek == '>') .badTag
      pure (Token.tag none suffix, behind.next)
    else if isGap following then pure (Token.tag none "!", cursor.next)
    else do
      let (handle, behind) ←
        if hasHandle cursor then readHandle .badTag cursor else pure ("!", cursor.next)
      let (suffix, behind) ← readSuffix .badTag behind
      pure (Token.tag (some handle) suffix, behind)
  ensure (isSpaceOrBreak behind.peek) .badTag
  return (token, behind)

def readNumber (cursor : Cursor) : Except Fault (Nat × Cursor) := do
  let (digits, behind) := cursor.span Char.isDigit
  ensure (!digits.isEmpty) .badDirective
  if digits.length > Numeral.digitLimit then .error (.misfit .versionTooLong)
  return (Numeral.ofDigits 10 (digits.map fun c => c.toNat - '0'.toNat), behind)

/-- Reads a directive behind its indicator, with the rest of its line. -/
def readDirective (cursor : Cursor) : Except Fault (Directive × Cursor) := do
  let (name, behind) := cursor.span isWordChar
  ensure (!name.isEmpty && isSpaceOrBreak behind.peek) .badDirective
  let name := String.ofList name
  let spaced := behind.skip (· == ' ')
  let (directive, behind) ←
    if name = "YAML" then do
      let (major, behind) ← readNumber spaced
      ensure (behind.peek == '.') .badDirective
      let (minor, behind) ← readNumber behind.next
      ensure (isSpaceOrBreak behind.peek) .badDirective
      pure (Directive.version major minor, behind)
    else if name = "TAG" then do
      let (handle, behind) ← readHandle .badDirective spaced
      ensure (behind.peek == ' ') .badDirective
      let (meaning, behind) ← readSuffix .badDirective (behind.skip (· == ' '))
      ensure (isSpaceOrBreak behind.peek) .badDirective
      pure (Directive.tagHandle handle meaning, behind)
    else pure (Directive.other name, behind.skip fun c => !isBreakOrEnd c)
  return (directive, ← behind.restOfLine .badDirective)

end TypedClient.Yaml.Mark
