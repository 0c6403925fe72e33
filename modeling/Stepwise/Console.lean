import Stepwise.Console.Table

/-!
The console: lines of some width on which texts with markup and tables are printed. What cannot be
rendered, or has no octets to be written in, is a fault, and nothing of it is printed.
-/
namespace Stepwise.Console

def endLines (lines : List (List Char)) : String :=
  String.ofList (lines.flatMap (· ++ ['\n']))

def writable (s : String) : Except Fault String :=
  match Text.Utf8.encodeError? s.toList with
  | some e => .error (.unprintable e)
  | none => .ok s

def printed (width : Nat) (markup : String) : Except Fault String := do
  writable (endLines (wrap .fold .natural width (← Markup.render markup.toList)))

def printedTable (width : Nat) (t : Table) : Except Fault String := do
  writable (endLines (← t.lines width))

/-- What is printed of several things in turn, up to the first that cannot be rendered. -/
def printAll : List (Except Fault String) → String × Option Fault
  | [] => ("", none)
  | .error f :: _ => ("", some f)
  | .ok text :: rest =>
    let (more, fault) := printAll rest
    (text ++ more, fault)

end Stepwise.Console
