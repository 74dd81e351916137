import Mathlib.Data.Finset.Sort
import Mathlib.Data.String.Basic
import VeriPay.Lib.PyDict
import VeriPay.Lib.PyText
import VeriPay.Lib.StrRepr

/-!
Role enforcement of the two portals. Their modules are the same but for the environment variable
the static tokens are read from. What `repr` takes for printable is a parameter.
-/

namespace VeriPay.Portals

open Lib

/-- What a request is denied with. -/
structure AuthError where
  statusCode : ℕ
  detail : String

structure AuthIdentity where
  subject : String
  roles : Finset String

/-- Resolves a bearer token to an identity, or denies. -/
structure TokenAuthenticator where
  authenticate : String → Except AuthError AuthIdentity

/-- The trimmed roles of `ROLE_A|ROLE_B` that are not blank. -/
def splitRoles (rolesPart : String) : List String :=
  ((split '|' rolesPart).map strip).filter fun role => role ≠ ""

/-- One pass of the loop over the entries. -/
def addEntry (result : PyDict String (Finset String)) (entry : String) :
    PyDict String (Finset String) :=
  let entry := strip entry
  if entry = "" then result
  else
    let (token, rolesPart) := partition ':' entry
    let token := strip token
    let roles := (splitRoles rolesPart).toFinset
    if token ≠ "" ∧ roles ≠ ∅ then result.set token roles else result

/-- `_parse_token_map`. -/
def parseTokenMap (raw : String) : PyDict String (Finset String) :=
  (split ',' raw).foldl addEntry ∅

structure ConfigTokenAuthenticator where
  tokens : PyDict String (Finset String)

namespace ConfigTokenAuthenticator

/-- `__init__`, for one environment variable. -/
def init (name : String) (getenv : String → Option String)
    (tokenMap : Option (PyDict String (Finset String))) : ConfigTokenAuthenticator where
  tokens :=
    match tokenMap with
    | some tokenMap => tokenMap
    | none => parseTokenMap ((getenv name).getD "")

def authenticate (self : ConfigTokenAuthenticator) (token : String) :
    Except AuthError AuthIdentity :=
  match self.tokens.get? token with
  | none => .error ⟨401, "Invalid or expired bearer token"⟩
  | some roles => .ok ⟨"config-token", roles⟩

def toTokenAuthenticator (self : ConfigTokenAuthenticator) : TokenAuthenticator :=
  ⟨self.authenticate⟩

end ConfigTokenAuthenticator

def extractBearerToken : Option String → Except AuthError String
  | none => .error ⟨401, "Missing Authorization header"⟩
  | some authorization =>
    if authorization = "" then .error ⟨401, "Missing Authorization header"⟩
    else
      let (scheme, token) := partition ' ' authorization
      if lower scheme ≠ "bearer" ∨ strip token = "" then
        .error ⟨401, "Authorization header must be 'Bearer <token>'"⟩
      else .ok (strip token)

/-- `sorted(roles)`, by code points. -/
def sortedRoles (roles : Finset String) : List String :=
  (roles.image String.toList).sort.map String.ofList

/-- `f"Requires one of roles: {sorted(required_roles)}"`. -/
def requiresDetail (printable : Char → Bool) (requiredRoles : Finset String) : String :=
  "Requires one of roles: [" ++
    ", ".intercalate ((sortedRoles requiredRoles).map fun role =>
      String.ofList (strRepr printable role)) ++ "]"

def requireRoles (printable : Char → Bool) (authorization : Option String)
    (authenticator : TokenAuthenticator) (requiredRoles : Finset String) :
    Except AuthError AuthIdentity := do
  let token ← extractBearerToken authorization
  let identity ← authenticator.authenticate token
  if identity.roles = ∅ ∨ identity.roles ∩ requiredRoles = ∅ then
    throw ⟨403, requiresDetail printable requiredRoles⟩
  else return identity

namespace BusinessPortal

def configTokenAuthenticator (getenv : String → Option String)
    (tokenMap : Option (PyDict String (Finset String)) := none) : ConfigTokenAuthenticator :=
  .init "BUSINESS_AUTH_TOKENS" getenv tokenMap

end BusinessPortal

namespace FiOpsPortal

def configTokenAuthenticator (getenv : String → Option String)
    (tokenMap : Option (PyDict String (Finset String)) := none) : ConfigTokenAuthenticator :=
  .init "FI_OPS_AUTH_TOKENS" getenv tokenMap

end FiOpsPortal

end VeriPay.Portals
