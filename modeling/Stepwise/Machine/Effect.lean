import Stepwise.Text.Utf8
import Stepwise.World

/-!
What programs leave: how they ended, what they wrote on their two channels in the order in which
they wrote it, what they did not read of their input, and the files as they are then.
-/
namespace Stepwise.Machine

inductive Termination where
  | exited (code : Nat)
  | killed (signal : Nat)
  deriving DecidableEq, Repr

abbrev Written := List (Nat × List UInt8)

structure Effect where
  ended : Termination
  written : Written
  unread : List UInt8
  world : World

/-- The place of the file that has nothing in it and takes all that is written to it. -/
def sinkPath : List String := ["dev", "null"]

def zeroPath : List String := ["dev", "zero"]

def isDevice (place : List String) : Bool := place = sinkPath || place = zeroPath

def octets (s : String) : List UInt8 := Text.Utf8.encode s.toList

namespace Effect

def silent (w : World) (code : Nat) : Effect := ⟨.exited code, [], [], w⟩

def saying (w : World) (bytes : List UInt8) : Effect := ⟨.exited 0, [(1, bytes)], [], w⟩

def complaining (w : World) (code : Nat) (lines : List String) : Effect :=
  ⟨.exited code, lines.map fun line => (2, octets (line ++ "\n")), [], w⟩

def complaint (w : World) (code : Nat) (line : String) : Effect := complaining w code [line]

def misuse (w : World) (code : Nat) (who text : String) : Effect :=
  complaining w code [who ++ ": " ++ text, "Try '" ++ who ++ " --help' for more information."]

def on (e : Effect) (channel : Nat) : List UInt8 :=
  (e.written.filter fun part => part.1 = channel).flatMap Prod.snd

end Effect

end Stepwise.Machine
