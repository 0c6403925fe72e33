import Stepwise.Proofs.Cli.Literal
import Stepwise.Proofs.Cli.Masking
import Stepwise.Proofs.Cli.Naming
import Stepwise.Proofs.Console.Joined
import Stepwise.Proofs.Console.Tables
import Stepwise.Proofs.Path.Usable

/-! Listings of pipelines. Every cell of the table of steps is one escaped text, so the table is
printed whatever the steps are. The line of a variable has two escaped texts in it, and these may
make a tag together: a closing one breaks the listing down, any other one is not shown. Where they
make none, the line shows the name and the value. -/
namespace Stepwise

namespace Cli

open Console (printed printedTable printAll endLines wrap Fits Showable)
open Console.Markup

section Table

end Table

section Variables

variable {name value : String}

/-- What is printed for a variable. Where its name and its value show themselves and make no tag
together, the line has both of them as they are, if it fits. -/
structure Lists (width : Nat) (v : String × String) (line : String) : Prop where
  printed : printed width (variableLine v.1 v.2) = .ok line
  literal : (∀ first, ¬ Joins v.1.toList v.2.toList first) → Kept v.1.toList → Kept v.2.toList →
    (∀ l ∈ Text.splitAt '\n' ("  " ++ v.1 ++ " = " ++ v.2).toList, Fits width l) →
    line = "  " ++ v.1 ++ " = " ++ v.2 ++ "\n"

end Variables

section Listings

variable {p : Pipeline}

/-- The parts of a listing: the table of steps and, if there are variables, a heading and a line for
each of them. -/
def listing (p : Pipeline) (table heading : String) (lines : List String) : List String :=
  table :: if p.env.isEmpty then [] else heading :: lines

end Listings

section Commands

variable {σ : Type} {file : String} {p : Pipeline} {d : Definition}

theorem valid_tells (width : Nat) : ∃ last, printed width "[green]Valid[/green]" = .ok last ∧
    Tells width "Valid" "" last :=
  notice_tells (.ofList (by decide)) rfl (by decide +kernel) width

theorem definition_valid_tells (width : Nat) :
    ∃ last, printed width "\n[green]Pipeline definition is valid.[/green]" = .ok last ∧
      Tells width "\nPipeline definition is valid." "" last :=
  notice_tells (.ofList (by decide)) rfl (by decide +kernel) width

theorem reads_dryRun (file : String) : Reads RunSettings.options true ["-f", file, "--dry-run"]
    (fun s => { s with file := some file, dryRun := true }) [] := by
  have dry : Reads RunSettings.options true ["--dry-run"] _ [] :=
    .option (by decide) (by decide) rfl .none
  have settings : Reads RunSettings.options true ["-f", file, "--dry-run"] _ [] :=
    .option (by decide) (by decide) rfl dry
  exact settings

end Commands

section Brackets

end Brackets

end Cli

end Stepwise
