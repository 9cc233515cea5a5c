import AuthSigner.Crypto.Sha2
import AuthSigner.Text.Lowercase

/-! Networks. A network is known by its passphrase, whose digest is part of
everything that is signed, so that no signature holds on two networks. The
well-known ones also have names, in which case does not matter. -/
namespace AuthSigner

/-- A network, by its passphrase. -/
structure Network where
  passphrase : String
deriving DecidableEq

/-- No network has this name. -/
inductive NetworkError where
  | unknown (name : String)
deriving DecidableEq

def NetworkError.message : NetworkError → String
  | .unknown name =>
    s!"unknown network '{name}'; expected one of testnet, futurenet, mainnet, local, or pass --network-passphrase"

namespace Network

def testnet : Network := ⟨"Test SDF Network ; September 2015"⟩
def futurenet : Network := ⟨"Test SDF Future Network ; October 2022"⟩
def mainnet : Network := ⟨"Public Global Stellar Network ; September 2015"⟩
def standalone : Network := ⟨"Standalone Network ; February 2017"⟩

/-- The network with a name, in any case. -/
def ofName (name : String) : Except NetworkError Network :=
  match Text.lowercase name with
  | "testnet" => .ok testnet
  | "futurenet" => .ok futurenet
  | "mainnet" | "pubnet" | "public" => .ok mainnet
  | "local" | "standalone" => .ok standalone
  | _ => .error (.unknown name)

/-- What the user says about the network. -/
structure Choice where
  passphrase : Option String
  name : Option String
deriving DecidableEq

/-- The network that is meant: a passphrase stands for itself whatever the name,
and where nothing is said it is the test network. -/
def Choice.resolve (choice : Choice) : Except NetworkError Network :=
  match choice.passphrase, choice.name with
  | some passphrase, _ => .ok ⟨passphrase⟩
  | none, some name => ofName name
  | none, none => .ok testnet

/-- The digest of the passphrase. -/
def id (network : Network) : Octets 32 := sha256 (Bytes.ofString network.passphrase)

end Network
end AuthSigner
