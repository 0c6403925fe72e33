import Stepwise.Step.Build

/-!
Built-in pipelines, by name.
-/
namespace Stepwise

inductive FormatMode where
  | fix
  | check
  deriving DecidableEq, Repr

namespace FormatMode

def text : FormatMode → String
  | fix => "fix"
  | check => "check"

/-- The mode that a caller's word asks for: only the exact word asks for a check. -/
def ofWord (word : String) : FormatMode :=
  if word = check.text then check else fix

end FormatMode

namespace Preset

def packageEnv : Env := Env.ofPairs [("DEBIAN_FRONTEND", "noninteractive")]

def nativePackages : List String := ["pkg-config", "libssl-dev", "protobuf-compiler"]

def rustSteps (mode : FormatMode) (packages : List String) : List Step :=
  [⟨["apt", "update", "-qq"], "Update package index", packageEnv, none, rfl⟩,
    ⟨"apt-get" :: "-qq" :: "install" :: packages, "Install native build dependencies",
      packageEnv, none, runnable_cons rfl⟩,
    ⟨["apt-get", "-qq", "install", "git"], "Install git", packageEnv, none, rfl⟩,
    ⟨["rustup", "component", "add", "rustfmt"], "Add rustfmt component", ∅, none, rfl⟩,
    ⟨["cargo", "build", "--verbose"], "Build", ∅, none, rfl⟩,
    ⟨["cargo", "test", "--verbose"], "Test", ∅, none, rfl⟩,
    match mode with
    | .check => ⟨["cargo", "fmt", "--all", "--", "--check"], "Check formatting", ∅, none, rfl⟩
    | .fix => ⟨["cargo", "fmt", "--all"], "Format", ∅, none, rfl⟩]

def rust (mode : FormatMode) (packages : List String) : Pipeline :=
  ⟨"rust", rustSteps mode packages, ∅, List.cons_ne_nil _ _⟩

/-- The number of the arguments of the installing step that stand before the packages. -/
def packagesFrom : Nat := 3

def rustOfValues (mode : FormatMode) (packages : List Value) :
    Except ConfigurationError Pipeline :=
  rust mode <$> Value.texts packagesFrom packages

structure Entry where
  name : String
  summary : String
  pipeline : FormatMode → Pipeline

def all : List Entry :=
  [⟨"rust", "Provision a Debian-based host and build, test and format a Cargo workspace.",
    fun mode => rust mode nativePackages⟩]

def build (name : String) (mode : FormatMode) : Except ConfigurationError Pipeline :=
  match all.find? fun entry => entry.name = name with
  | some entry => .ok (entry.pipeline mode)
  | none => .error (.unknownPreset name (all.map Entry.name))

end Preset

end Stepwise
