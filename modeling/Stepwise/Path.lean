import Stepwise.Text.Lines
import Stepwise.Text.Quoted

/-!
POSIX paths as a root and the names below it. Reading a path drops empty names and single dots and
keeps double dots, because what they mean depends on links. Two slashes in front are a root of their
own; one, three and more are the same root. A directory is given as a text or as a path.
-/
namespace Stepwise

inductive Path.Root where
  | here
  | slash
  | twoSlashes
  deriving DecidableEq, Repr

structure Path where
  root : Path.Root
  parts : List String
  deriving DecidableEq, Repr

namespace Path

def Root.text : Root → String
  | here => ""
  | slash => "/"
  | twoSlashes => "//"

def Root.ofChars : List Char → Root
  | '/' :: '/' :: '/' :: _ => slash
  | '/' :: '/' :: _ => twoSlashes
  | '/' :: _ => slash
  | _ => here

def isStep (name : String) : Bool :=
  name ≠ "" && name ≠ "."

def names (s : String) : List String :=
  (Text.splitAt '/' s.toList).map String.ofList

def ofString (s : String) : Path where
  root := Root.ofChars s.toList
  parts := (names s).filter isStep

def toString (p : Path) : String :=
  if p.root = .here && p.parts.isEmpty then "."
  else p.root.text ++ "/".intercalate p.parts

instance : ToString Path := ⟨toString⟩

def display (p : Path) : String := "PosixPath(" ++ Text.quoted p.toString ++ ")"

def isAbsolute (p : Path) : Bool :=
  p.root ≠ .here

def join (p q : Path) : Path :=
  if q.isAbsolute then q else { p with parts := p.parts ++ q.parts }

instance : Div Path := ⟨join⟩

theorem join_of_isAbsolute {p q : Path} (h : q.isAbsolute) : p / q = q := by
  show p.join q = q
  simp [join, h]

theorem join_assoc (p q r : Path) : p / q / r = p / (q / r) := by
  show (p.join q).join r = p.join (q.join r)
  by_cases hr : r.isAbsolute
  · simp [join, hr]
  · by_cases hq : q.isAbsolute <;> simp_all [join, isAbsolute]

def Normal (p : Path) : Prop :=
  ∀ name ∈ p.parts, name ≠ "" ∧ name ≠ "." ∧ '/' ∉ name.toList

instance (p : Path) : Decidable p.Normal := inferInstanceAs (Decidable (∀ name ∈ p.parts, _))

end Path

/-- A directory as callers give it. -/
inductive Directory where
  | text (written : String)
  | path (p : Path) (normal : p.Normal)
  deriving DecidableEq

namespace Directory

def toPath : Directory → Path
  | text s => .ofString s
  | path p _ => p

def toString : Directory → String
  | text s => s
  | path p _ => p.toString

end Directory

end Stepwise
