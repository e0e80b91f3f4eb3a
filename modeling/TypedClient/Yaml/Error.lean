/-!
Why a text is no YAML document of plain data. A text may be malformed, as a stream of tokens, as a
tree of nodes or in what its tags promise; or a scalar that is marked as a number, a truth value or
a date may be none.
-/

namespace TypedClient.Yaml

inductive Malformed where
  | unprintable (c : Char)
  | unexpectedCharacter (c : Char)
  | missingColon
  | entryNotAllowed
  | keyNotAllowed
  | valueNotAllowed
  | unmatchedBracket
  | badDirective
  | badAnchor
  | badTag
  | badBlockHeader
  | badEscape
  | unclosedQuote
  | separatorInQuotes
  | expectedNode
  | expectedBlockEnd
  | expectedFlowSeparator
  | expectedDocumentStart
  | secondDocument
  | repeatedDirective
  | unsupportedVersion
  | undefinedTagHandle (handle : String)
  | undefinedAlias (name : String)
  | repeatedAnchor (name : String)
  | unknownTag (tag : String)
  | wrongKind (tag : String)
  | compositeKey
  | badMerge
  | notBinary
  deriving DecidableEq, Repr

inductive Misfit where
  | notNumber
  | emptyNumber
  | numberTooLarge
  | notTruthValue
  | notDate
  | noSuchDate
  | dateWithEntries
  | noSuchCharacter
  | characterTooLarge
  | versionTooLong
  deriving DecidableEq, Repr

inductive Fault where
  | malformed (cause : Malformed)
  | misfit (cause : Misfit)
  deriving DecidableEq, Repr

namespace Malformed

/-- What is said about a malformed document. -/
def message : Malformed → String
  | unprintable c => "character number " ++ toString c.toNat ++ " is not allowed"
  | unexpectedCharacter c => "no token starts with " ++ String.singleton c
  | missingColon => "a key has no colon"
  | entryNotAllowed => "a sequence entry is not allowed here"
  | keyNotAllowed => "a mapping key is not allowed here"
  | valueNotAllowed => "a mapping value is not allowed here"
  | unmatchedBracket => "a bracket closes nothing"
  | badDirective => "a directive is not well formed"
  | badAnchor => "an anchor or an alias is not well formed"
  | badTag => "a tag is not well formed"
  | badBlockHeader => "the header of a block scalar is not well formed"
  | badEscape => "an escape is not well formed"
  | unclosedQuote => "a quoted scalar is not closed"
  | separatorInQuotes => "a document ends inside a quoted scalar"
  | expectedNode => "a node is missing"
  | expectedBlockEnd => "a block collection goes on with something else"
  | expectedFlowSeparator => "a comma or a closing bracket is missing"
  | expectedDocumentStart => "the start of a document is missing"
  | secondDocument => "there is a second document"
  | repeatedDirective => "a directive is repeated"
  | unsupportedVersion => "the version of the document is not supported"
  | undefinedTagHandle handle => "the tag handle " ++ handle ++ " is not defined"
  | undefinedAlias name => "the anchor " ++ name ++ " is not defined"
  | repeatedAnchor name => "the anchor " ++ name ++ " is defined twice"
  | unknownTag tag => "the tag " ++ tag ++ " is not known"
  | wrongKind tag => "a node of this kind cannot have the tag " ++ tag
  | compositeKey => "a key is a collection"
  | badMerge => "a merge key has no mapping"
  | notBinary => "binary data are not well formed"

end Malformed

def Misfit.message : Misfit → String
  | notNumber => "no number"
  | emptyNumber => "an empty number"
  | numberTooLarge => "too large a number"
  | notTruthValue => "no truth value"
  | notDate => "no date"
  | noSuchDate => "a date that the calendar does not have"
  | dateWithEntries => "a date that is written as a mapping"
  | noSuchCharacter => "a character that does not exist"
  | characterTooLarge => "too large a number for a character"
  | versionTooLong => "too long a version number"

end TypedClient.Yaml
