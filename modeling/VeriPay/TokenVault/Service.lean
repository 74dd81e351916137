import VeriPay.Lib.DateTime
import VeriPay.Lib.Effect
import VeriPay.Lib.Machine
import VeriPay.Lib.PyDict
import VeriPay.Common.Enums

/-!
The token vault: token metadata by id, and the endpoints that create a token, consume
one use of it and validate its code. A creation writes its record over the one stored
under the same id.
-/

namespace VeriPay.TokenVault

open Lib Common

@[ext]
structure TokenRecord where
  tokenId : NonEmptyStr
  merchantId : NonEmptyStr
  userId : NonEmptyStr
  tokenType : TokenType
  status : TokenStatus := .active
  expiresAt : DateTime
  maxUses : Option {n : ℕ // 1 ≤ n} := none
  uses : ℕ := 0
  deriving DecidableEq

structure TokenCreateRequest where
  tokenId : NonEmptyStr
  merchantId : NonEmptyStr
  userId : NonEmptyStr
  tokenType : TokenType := .singleUse
  expiresAt : DateTime
  maxUses : Option {n : ℕ // 1 ≤ n} := none
  deriving DecidableEq

/-- A pydantic `str` field with the pattern `^[0-9]{3}$`. -/
abbrev Dcvv := {s : String // s.length = 3 ∧ ∀ c ∈ s.toList, c.isDigit}

structure DcvvValidationRequest where
  tokenId : NonEmptyStr
  providedDcvv : Dcvv
  expectedDcvv : Dcvv

structure DcvvValidationResponse where
  tokenId : NonEmptyStr
  status : DcvvStatus

structure InMemoryTokenRepository where
  tokens : PyDict String TokenRecord := ∅

namespace InMemoryTokenRepository

def save (repository : InMemoryTokenRepository) (token : TokenRecord) :
    InMemoryTokenRepository where
  tokens := repository.tokens.set token.tokenId.val token

def get (repository : InMemoryTokenRepository) (tokenId : String) : Option TokenRecord :=
  repository.tokens.get? tokenId

theorem get_save (repository : InMemoryTokenRepository) (token : TokenRecord) (id : String) :
    (repository.save token).get id =
      if id = token.tokenId.val then some token else repository.get id :=
  PyDict.get?_set ..

end InMemoryTokenRepository

/-- The checks stop at the first that fails, so a spent token is never compared with the
clock. -/
def isUsable (token : TokenRecord) (now : DateTime) : Py Bool :=
  if token.status ≠ .active then return false
  else do
    if !(← now.lt token.expiresAt) then return false
    match token.maxUses with
    | none => return true
    | some limit => return token.uses < limit.val

/-- While uses are left, expiry decides. -/
theorem isUsable_eq_lt {token : TokenRecord} (hactive : token.status = .active)
    (hleft : ∀ limit, token.maxUses = some limit → token.uses < limit.val) (now : DateTime) :
    isUsable token now = now.lt token.expiresAt := by
  rw [isUsable, if_neg (not_not.mpr hactive)]
  cases hlive : now.lt token.expiresAt with
  | error e => rfl
  | ok live =>
    rw [Py.ok_bind]
    cases live with
    | false => rfl
    | true =>
      cases hmax : token.maxUses with
      | none => rfl
      | some limit => exact congrArg Except.ok (decide_eq_true (hleft limit hmax))

/-- Consume one use. -/
def consume (token : TokenRecord) (now : DateTime) : Py TokenRecord := do
  if !(← isUsable token now) then throw (.valueError "Token is not usable")
  let uses := token.uses + 1
  let status :=
    match token.maxUses with
    | none => token.status
    | some limit => if limit.val ≤ uses then .exhausted else token.status
  return { token with uses, status }

theorem consume_eq_of_none {token : TokenRecord} {now : DateTime}
    (husable : isUsable token now = .ok true) (hmax : token.maxUses = none) :
    consume token now = .ok { token with uses := token.uses + 1 } := by
  rw [consume, husable, Py.ok_bind, hmax]
  rfl

theorem consume_eq_of_some {token : TokenRecord} {now : DateTime}
    {limit : {n : ℕ // 1 ≤ n}} (husable : isUsable token now = .ok true)
    (hmax : token.maxUses = some limit) :
    consume token now = .ok { token with
      uses := token.uses + 1
      status := if limit.val ≤ token.uses + 1 then .exhausted else token.status } := by
  rw [consume, husable, Py.ok_bind, hmax]
  rfl

def validateDcvv (request : DcvvValidationRequest) (repository : InMemoryTokenRepository)
    (now : DateTime) : Py DcvvValidationResponse := do
  let expired := { tokenId := request.tokenId, status := .expired }
  match repository.get request.tokenId.val with
  | none => return expired
  | some token =>
    if !(← isUsable token now) then return expired
    let status := if request.providedDcvv = request.expectedDcvv then .matched else .mismatch
    return { tokenId := request.tokenId, status }

/-- `TokenRecord(**request.model_dump())`. -/
def TokenCreateRequest.record (request : TokenCreateRequest) : TokenRecord where
  tokenId := request.tokenId
  merchantId := request.merchantId
  userId := request.userId
  tokenType := request.tokenType
  expiresAt := request.expiresAt
  maxUses := request.maxUses

def httpException (statusCode : ℕ) (detail : String) : PyErr :=
  .other (toString statusCode ++ ": " ++ detail)

/-- `POST /api/v1/tokens`. -/
def createToken (request : TokenCreateRequest) : Effect InMemoryTokenRepository TokenRecord := do
  modify (·.save request.record)
  return request.record

/-- `POST /api/v1/tokens/{token_id}/consume`, at the reading of the clock. -/
def consumeToken (tokenId : String) (now : DateTime) :
    Effect InMemoryTokenRepository TokenRecord := do
  let repository ← get
  match repository.get tokenId with
  | none => throw (httpException 404 "Token not found")
  | some token =>
    match consume token now with
    | .error e => if e.isValueError then throw (httpException 409 e.message) else throw e
    | .ok updated =>
      modify (·.save updated)
      return updated

/-- `POST /api/v1/tokens/dcvv/validate`. -/
def validateTokenDcvv (request : DcvvValidationRequest) (now : DateTime) :
    Effect InMemoryTokenRepository DcvvValidationResponse := do
  let repository ← get
  liftM (validateDcvv request repository now)

inductive VaultCall
  | create (request : TokenCreateRequest)
  | consume (tokenId : String) (now : DateTime)
  | validate (request : DcvvValidationRequest) (now : DateTime)

inductive VaultAnswer
  | token (answer : Py TokenRecord)
  | dcvv (answer : Py DcvvValidationResponse)

def vaultMachine : Machine InMemoryTokenRepository VaultCall VaultAnswer where
  step repository
    | .create request =>
      let (answer, after) := Effect.exec (createToken request) repository
      (.token answer, after)
    | .consume tokenId now =>
      let (answer, after) := Effect.exec (consumeToken tokenId now) repository
      (.token answer, after)
    | .validate request now =>
      let (answer, after) := Effect.exec (validateTokenDcvv request now) repository
      (.dcvv answer, after)

/-- The repository after the requests, from the empty one. -/
def after (calls : List VaultCall) : InMemoryTokenRepository := vaultMachine.run {} calls

end VeriPay.TokenVault
