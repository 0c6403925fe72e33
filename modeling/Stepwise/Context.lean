import Stepwise.Step

/-!
What a command is run in: a directory and the variables it sees. A context is never changed; a step
that asks for a directory or variables of its own gets a context derived from the one at hand.
-/
namespace Stepwise

structure Context where
  cwd : Path
  env : Env
  deriving DecidableEq

namespace Context

/-- The context with more variables set and, if one is given, another directory, which is seen from
the one at hand. -/
def override (c : Context) (env : Env) (cwd : Option Directory) : Context where
  cwd := match cwd with
    | none => c.cwd
    | some dir => c.cwd / dir.toPath
  env := c.env.update env

def suits (_ : Context) (s : Step) : Bool :=
  s.env.isEmpty && s.cwd.isNone

def forStep (c : Context) (s : Step) : Context :=
  if c.suits s then c else c.override s.env s.cwd

/-- The part of a context that its place in a hash table depends on: all but its variables. -/
def key (c : Context) : Path := c.cwd

/-- Whether two contexts are the same, whatever the order of their variables. -/
def same (a b : Context) : Bool :=
  a.cwd = b.cwd && a.env.same b.env

end Context

end Stepwise
