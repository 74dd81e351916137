import VeriPay.Lib.PyRepr

/-!
The texts of `json.dumps(value, default=str)`: ASCII only, with `", "` between items
and `": "` after keys.
-/

namespace VeriPay.Lib

/-- A character of a JSON text, escaped unless it is printable ASCII. -/
def jsonChar (c : Char) : List Char :=
  if c = '"' ∨ c = '\\' then ['\\', c]
  else if c = '\n' then ['\\', 'n']
  else if c = '\r' then ['\\', 'r']
  else if c = '\t' then ['\\', 't']
  else if c.toNat = 12 then ['\\', 'f']
  else if c.toNat = 8 then ['\\', 'b']
  else if 32 ≤ c.toNat ∧ c.toNat ≤ 126 then [c]
  else if c.toNat < 65536 then '\\' :: 'u' :: hexText 4 c.toNat
  else
    let n := c.toNat - 65536
    '\\' :: 'u' :: hexText 4 (55296 + n / 1024) ++ '\\' :: 'u' :: hexText 4 (56320 + n % 1024)

def jsonStr (text : List Char) : List Char := '"' :: (text.flatMap jsonChar ++ ['"'])

variable {F : Type} (texts : Texts F)

def jsonFloat (value : F) : List Char :=
  if texts.floatRepr value = "nan".toList then "NaN".toList
  else if texts.floatRepr value = "inf".toList then "Infinity".toList
  else if texts.floatRepr value = "-inf".toList then "-Infinity".toList
  else texts.floatRepr value

def jsonScalar : Scalar F → List Char
  | .none => "null".toList
  | .bool true => "true".toList
  | .bool false => "false".toList
  | .int value => intRepr value
  | .float value => jsonFloat texts value
  | .str value => jsonStr value.toList
  | .datetime value => jsonStr (texts.datetimeStr value)

mutual

def jsonText : Payload (Scalar F) → List Char
  | .leaf value => jsonScalar texts value
  | .list items => '[' :: (jsonItems items ++ [']'])
  | .tuple items => '[' :: (jsonItems items ++ [']'])
  | .map fields => '{' :: (jsonFields fields ++ ['}'])

def jsonItems : List (Payload (Scalar F)) → List Char
  | [] => []
  | item :: rest => jsonText item ++ jsonMoreItems rest

def jsonMoreItems : List (Payload (Scalar F)) → List Char
  | [] => []
  | item :: rest => ',' :: ' ' :: (jsonText item ++ jsonMoreItems rest)

def jsonFields : List (String × Payload (Scalar F)) → List Char
  | [] => []
  | (key, value) :: rest =>
    jsonStr key.toList ++ ':' :: ' ' :: jsonText value ++ jsonMoreFields rest

def jsonMoreFields : List (String × Payload (Scalar F)) → List Char
  | [] => []
  | (key, value) :: rest =>
    ',' :: ' ' :: (jsonStr key.toList ++ ':' :: ' ' :: jsonText value ++ jsonMoreFields rest)

end

/-- `json.dumps(value, default=str)`. -/
def jsonDumps (value : Payload (Scalar F)) : String := String.ofList (jsonText texts value)

end VeriPay.Lib
