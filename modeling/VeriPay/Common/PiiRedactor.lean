import VeriPay.Common.Privacy
import VeriPay.Lib.PyRepr

/-!
The redactor of the services: the pattern that says which keys are sensitive, and
surrogate tokens cut from a hash of the value's text.
-/

namespace VeriPay.Common

open Lib Lib.Payload

/-- A piece of a key pattern. The pieces `maybe` and `maybeAny`, written `c?` and `.?`,
may be left out. -/
inductive PatternPiece
  | one (letter : Char)
  | maybe (letter : Char)
  | maybeAny

/-- The small letter a character matches when case is ignored. -/
def foldCase (c : Char) : Char :=
  if c = 'İ' ∨ c = 'ı' then 'i'
  else if c = 'ſ' then 's'
  else if c.toNat = 0x212A then 'k'
  else c.toLower

/-- The pattern matches at the start of the text. -/
def matchesHere : List PatternPiece → List Char → Bool
  | [], _ => true
  | .one letter :: pieces, text =>
    match text with
    | [] => false
    | c :: rest => foldCase c = letter && matchesHere pieces rest
  | .maybe letter :: pieces, text =>
    (match text with
      | [] => false
      | c :: rest => foldCase c = letter && matchesHere pieces rest) || matchesHere pieces text
  | .maybeAny :: pieces, text =>
    (match text with
      | [] => false
      | c :: rest => c ≠ '\n' && matchesHere pieces rest) || matchesHere pieces text

def pieces (text : String) : List PatternPiece := text.toList.map .one

/-- The alternatives of `_SENSITIVE_KEY_PATTERN`. -/
def sensitiveKeyPattern : List (List PatternPiece) := [
  pieces "pan",
  pieces "primary" ++ .maybeAny :: pieces "account",
  pieces "card" ++ .maybeAny :: pieces "number",
  pieces "cvv",
  .maybe 'd' :: pieces "cvv",
  pieces "name",
  pieces "address",
  pieces "national" ++ .maybeAny :: pieces "id",
  pieces "social" ++ .maybeAny :: pieces "security",
  pieces "ssn",
  pieces "ip",
  pieces "device" ++ .maybeAny :: pieces "id",
  pieces "payment" ++ .maybeAny :: pieces "instrument",
  pieces "credential",
  pieces "secret",
  pieces "token"]

/-- `_SENSITIVE_KEY_PATTERN.search(key_text)` finds a match. -/
def sensitiveKey (key : String) : Bool :=
  key.toList.tails.any fun rest => sensitiveKeyPattern.any fun alternative =>
    matchesHere alternative rest

example : sensitiveKey "Card_Number" = true := by decide
example : sensitiveKey "merchant_id" = false := by decide

/-- What the redactor calls of Python's library. `sha256Hex` is the hexadecimal digest of
a text's UTF-8 bytes. -/
structure RedactorLib (F : Type) where
  texts : Texts F
  sha256Hex : String → String

structure DeterministicPiiRedactor where
  tokenNamespace : String := "veripay"

namespace DeterministicPiiRedactor

variable {F : Type} (lib : RedactorLib F) (redactor : DeterministicPiiRedactor)

/-- The token of a value with this text. -/
def surrogate (text : String) : String :=
  let digest := (lib.sha256Hex (redactor.tokenNamespace ++ ":" ++ text)).toList.take 20
  "tok_" ++ String.ofList digest

def tokenize (value : Payload (Scalar F)) : Scalar F :=
  .str (redactor.surrogate lib (pyStr lib.texts value))

def redact (payload : Object (Scalar F)) : RedactionResult (Scalar F) :=
  Common.redact sensitiveKey (redactor.tokenize lib) payload

end DeterministicPiiRedactor

end VeriPay.Common
