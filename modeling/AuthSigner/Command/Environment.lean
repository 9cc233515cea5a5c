/-! The environment of a run. The variables that the options fall back on had other
names before, and a variable that is not set takes the value of the latest of its
former names that is. -/
namespace AuthSigner

/-- The variables that are set, with their values. -/
abbrev Environment := String → Option String

namespace Environment

/-- The environment in which these variables are set. -/
def ofList (pairs : List (String × String)) : Environment := fun name => pairs.lookup name

/-- Sets a variable. -/
def set (env : Environment) (name value : String) : Environment :=
  fun other => if other = name then some value else env other

/-- Sets a variable unless it is set, if only to the empty text. -/
def setDefault (env : Environment) (name value : String) : Environment :=
  if (env name).isSome then env else env.set name value

end Environment

/-- A variable, and the names that it had before, the latest first. -/
structure RenamedVariable where
  name : String
  formerNames : List String
deriving DecidableEq

namespace RenamedVariable

def secretKey : RenamedVariable := ⟨"STELLAR_SECRET_KEY", ["SOROBAN_SECRET_KEY", "SECRET_KEY"]⟩

def networkPassphrase : RenamedVariable :=
  ⟨"STELLAR_NETWORK_PASSPHRASE", ["SOROBAN_NETWORK_PASSPHRASE", "NETWORK_PASSPHRASE"]⟩

def network : RenamedVariable := ⟨"STELLAR_NETWORK", ["SOROBAN_NETWORK"]⟩

def expiration : RenamedVariable :=
  ⟨"STELLAR_SIGNATURE_EXPIRATION_LEDGER",
    ["SOROBAN_SIGNATURE_EXPIRATION_LEDGER", "SIGNATURE_EXPIRATION_LEDGER"]⟩

/-- The variables that the options fall back on. -/
def all : List RenamedVariable := [secretKey, networkPassphrase, network, expiration]

/-- Gives a variable that is not set the value of its latest former name that is. -/
def adopt (env : Environment) (v : RenamedVariable) : Environment :=
  match v.formerNames.findSome? env with
  | some value => env.setDefault v.name value
  | none => env

end RenamedVariable

/-- The environment with the variables of the options under their present names. -/
def Environment.withPresentNames (env : Environment) : Environment :=
  RenamedVariable.all.foldl RenamedVariable.adopt env

end AuthSigner
