import CrateGuard.Freshness.Lookup
import CrateGuard.Run
import CrateGuard.Text.Blank
import CrateGuard.Text.Percent

/-! Clients of a registry. Each package has its own address: the address of the registry without
slashes at its end, one slash, and the name of the package as one segment. -/

namespace CrateGuard

/-- How a registry is asked. The waiting limit is a number of seconds, or null for none. -/
structure RegistryClient where
  baseUrl : Text
  timeout : Json
  userAgent : Text

/-- What comes back from a registry: a status and a body, or a failure to get an answer. -/
inductive RegistryReply
  | answered (status : Int) (body : Text)
  | failed (failure : Failure)

abbrev Registry := Request → RegistryReply

namespace RegistryClient

def usualUrl : Text := "https://crates.io/api/v1/crates"

def usualTimeout : Json := .float (Binary64.ofDecimal false 30 0)

def usualAgent : Text := "dependency-gate/0.1 (dependency-watch)"

def usual : RegistryClient := ⟨usualUrl, usualTimeout, usualAgent⟩

def withoutSlashes (url : Text) : Text :=
  Text.trimEndOf (· == '/') url

def url? (client : RegistryClient) (name : Text) : Option Text :=
  (Text.percentEncode? name).map fun segment => withoutSlashes client.baseUrl ++ "/" ++ segment

def request? (client : RegistryClient) (name : Text) : Option Request :=
  (client.url? name).map fun url => ⟨url, client.userAgent, client.timeout⟩

end RegistryClient

end CrateGuard
