import TypedClient.Document.Load
import TypedClient.Proofs.Files.Unusable

/-!
How loading a document breaks off without a report: before there is a text, because of a path, of the
content of a file, of an address or of the answer of a server; and after that because of a number or of
another scalar in the text.
-/

namespace TypedClient.Document

open Outcome (Fails)

inductive TextBreaksOff : String → Bool → Prop where
  /-- An integer of a JSON text has more digits than can be read. -/
  | tooManyDigits (failed : Json.read text = .error error) (tooMany : error.cause = .tooManyDigits) :
      TextBreaksOff text true
  /-- A scalar of a YAML text is not what it is marked as. -/
  | misfit (failed : Yaml.read text = .error (.misfit cause)) : TextBreaksOff text false

section

variable (store : Store) (web : Web) (redirects : Nat) (location : String)

/-- A location has a text in one of the two formats: that of its file or that of the answer at its
address. -/
inductive HasText : String → Bool → Prop where
  | file (isFile : Url.isWebAddress location = false)
      (found : store.read (.ofText location) = .ok content) (isText : textOf? content = some text) :
      HasText text (isJsonPath (.ofText location))
  | answer (isAddress : Url.isWebAddress location = true)
      (answered : (web.visit redirects location).result = .ok (response, content))
      (isText : response.textOf content = .ok text) :
      HasText text response.isJson

inductive BreaksOff : Prop where
  /-- No file has the path: it holds a null character, or a half of a pair that stands for no octet. -/
  | unusable (isFile : Url.isWebAddress location = false)
      (refused : FileName.isUnusable location = true) : BreaksOff
  /-- A file is there, but it is not in UTF-8. -/
  | notUtf8 (isFile : Url.isWebAddress location = false)
      (found : store.read (.ofText location) = .ok content) (invalid : ¬content.IsValidUTF8) : BreaksOff
  /-- An address or its host is malformed, also that of a redirect, or the headers of an answer are. -/
  | malformedExchange (isAddress : Url.isWebAddress location = true)
      (failed : (web.visit redirects location).result = .error cause)
      (malformed : cause = .notAddress ∨ (∃ fault, cause = .badHost fault) ∨ cause = .badHeaders ∨
        cause = .withoutServer) : BreaksOff
  /-- An answer has no text in its charset. -/
  | notText (isAddress : Url.isWebAddress location = true)
      (answered : (web.visit redirects location).result = .ok (response, content))
      (noText : response.textOf content = .error fault) : BreaksOff
  /-- There is a text, and reading it breaks off. -/
  | text (given : HasText store web redirects location text isJson)
      (breaksOff : TextBreaksOff text isJson) : BreaksOff

end

theorem parse_breaksOff {text : String} :
    Fails (fun cause => cause.isReported = false) (parse source text isJson) ↔
      TextBreaksOff text isJson := by
  unfold parse
  cases isJson with
  | true =>
    rw [if_pos rfl, Outcome.fails_mapError]
    constructor
    · rintro ⟨error, failed, unreported⟩
      exact .tooManyDigits failed (by simpa [LoadError.isReported] using unreported)
    · rintro ⟨failed, tooMany⟩
      exact ⟨_, failed, by simp [LoadError.isReported, tooMany]⟩
  | false =>
    rw [if_neg Bool.false_ne_true, Outcome.fails_mapError]
    constructor
    · rintro ⟨fault, failed, unreported⟩
      cases fault with
      | malformed cause => cases unreported
      | misfit cause => exact .misfit failed
    · rintro (_ | failed)
      exact ⟨_, failed, rfl⟩

theorem ofContent_breaksOff :
    Fails (fun cause => cause.isReported = false) (ofContent path content) ↔
      ¬content.IsValidUTF8 ∨ ∃ text, textOf? content = some text ∧ TextBreaksOff text (isJsonPath path) := by
  have isText : textOf? content = none ↔ ¬content.IsValidUTF8 := by simp [textOf?, String.fromUTF8?]
  rw [← isText, ofContent]
  cases textOf? content with
  | none => simp [Outcome.fails_error, LoadError.isReported]
  | some text => simp [parse_breaksOff]

theorem fetchError_unreported {cause : FetchError} : cause.isReported = false ↔
    cause = .notAddress ∨ (∃ fault, cause = .badHost fault) ∨ cause = .badHeaders ∨
      cause = .withoutServer := by
  cases cause <;> simp [FetchError.isReported]

variable {store : Store} {web : Web} {redirects : Nat} {location : String}

theorem readFile_breaksOff (isFile : Url.isWebAddress location = false) :
    Fails (fun cause => cause.isReported = false) (readFile store (.ofText location)) ↔
      BreaksOff store web redirects location := by
  rw [readFile, Outcome.fails_bind, Outcome.fails_mapError]
  simp only [Outcome.mapError_eq_ok, ofContent_breaksOff]
  constructor
  · rintro (⟨cause, refused, unreported⟩ | ⟨content, found, invalid | ⟨text, isText, breaksOff⟩⟩)
    · have unusable : cause = .unusable := by simpa [LoadError.isReported] using unreported
      subst unusable
      exact .unusable isFile (Path.isUnusable_ofText.mp (Store.read_eq_unusable.mp refused))
    · exact .notUtf8 isFile found invalid
    · exact .text (.file isFile found isText) breaksOff
  · rintro (⟨_, refused⟩ | ⟨_, found, invalid⟩ | ⟨isAddress⟩ | ⟨isAddress⟩ | ⟨given, breaksOff⟩)
    · exact .inl ⟨_, Store.read_eq_unusable.mpr (Path.isUnusable_ofText.mpr refused), rfl⟩
    · exact .inr ⟨_, found, .inl invalid⟩
    · cases isFile.symm.trans isAddress
    · cases isFile.symm.trans isAddress
    · cases given with
      | file _ found isText => exact .inr ⟨_, found, .inr ⟨_, isText, breaksOff⟩⟩
      | answer isAddress => cases isFile.symm.trans isAddress

theorem fetch_breaksOff (isAddress : Url.isWebAddress location = true) :
    Fails (fun cause => cause.isReported = false) (fetch web redirects location) ↔
      BreaksOff store web redirects location := by
  rw [fetch, Outcome.fails_bind, Outcome.fails_mapError]
  simp only [Outcome.mapError_eq_ok, Outcome.fails_bind, Outcome.fails_mapError, parse_breaksOff]
  constructor
  · rintro (⟨cause, failed, unreported⟩ | ⟨answer, answered, ⟨fault, noText, _⟩ | ⟨text, isText, breaksOff⟩⟩)
    · exact .malformedExchange isAddress failed (fetchError_unreported.mp unreported)
    · exact .notText isAddress answered noText
    · exact .text (.answer isAddress answered isText) breaksOff
  · rintro (⟨isFile⟩ | ⟨isFile⟩ | ⟨_, failed, malformed⟩ | ⟨_, answered, noText⟩ | ⟨given, breaksOff⟩)
    · cases isFile.symm.trans isAddress
    · cases isFile.symm.trans isAddress
    · exact .inl ⟨_, failed, fetchError_unreported.mpr malformed⟩
    · exact .inr ⟨_, answered, .inl ⟨_, noText, rfl⟩⟩
    · cases given with
      | file isFile => cases isFile.symm.trans isAddress
      | answer _ answered isText => exact .inr ⟨_, answered, .inr ⟨_, isText, breaksOff⟩⟩

/-- Loading fails without a report exactly when it breaks off. -/
theorem load_breaksOff :
    Fails (fun cause => cause.isReported = false) (load store web redirects location) ↔
      BreaksOff store web redirects location := by
  have mapping (value : Value) : ¬Fails (fun cause => cause.isReported = false) (entriesOf value) := by
    rintro ⟨cause, failed, unreported⟩
    unfold entriesOf at failed
    split at failed <;> cases failed
    cases unreported
  rw [load, Outcome.fails_bind, or_iff_left fun ⟨value, _, failed⟩ => mapping value failed, loadValue]
  cases address : Url.isWebAddress location with
  | false => exact readFile_breaksOff address
  | true => exact fetch_breaksOff address

end TypedClient.Document
