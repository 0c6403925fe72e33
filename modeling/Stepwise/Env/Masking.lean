import Stepwise.Env
import Stepwise.Text.Upper

/-!
Secrets among the variables. A variable is taken for a secret by its name alone: by how it begins
or ends, in any case of its letters. Masking hides the values of secrets and nothing else.
-/
namespace Stepwise.Env

def sensitiveBeginnings : List String :=
  ["AWS_SECRET", "AWS_SESSION_TOKEN", "GITHUB_TOKEN", "GH_TOKEN", "GITLAB_TOKEN",
    "CARGO_REGISTRY_TOKEN", "CARGO_REGISTRIES_", "NPM_TOKEN", "DOCKER_PASSWORD", "VAULT_TOKEN"]

def sensitiveEndings : List String :=
  ["_KEY", "_SECRET", "_TOKEN", "_PASSWORD", "_CREDENTIAL", "_CREDENTIALS"]

def isSensitive (name : String) : Bool :=
  let letters := Text.upper name.toList
  sensitiveBeginnings.any (fun s => s.toList.isPrefixOf letters) ||
    sensitiveEndings.any (fun s => s.toList.isSuffixOf letters)

def maskText : String := "****"

def maskValue (name value : String) : String :=
  if isSensitive name then maskText else value

def mask (e : Env) : Env := e.mapValues maskValue

end Stepwise.Env
