import Stepwise.Console.Pictures
import Stepwise.Fault
import Stepwise.Text.Blank
import Stepwise.Text.Lower

/-!
Markup: texts with tags in square brackets. A tag begins with a small letter, a number sign, a slash
or an at sign, and ends at the next closing bracket; an opening bracket may not come before that.
Backslashes before a tag count in pairs as themselves, and one that is left over makes the tag a
text. `escape` puts in the backslashes that make every tag of a text one; `render` takes out the
tags, and names of pictures between colons become the pictures.
-/
namespace Stepwise.Console.Markup

def startsTag (c : Char) : Bool :=
  ('a' ≤ c && c ≤ 'z') || c = '#' || c = '/' || c = '@'

def tagBody? : List Char → Option (List Char × List Char)
  | [] => none
  | c :: cs =>
    if startsTag c then
      let body := cs.takeWhile fun d => !(d = '[' || d = ']')
      match cs.drop body.length with
      | ']' :: after => some (c :: body, after)
      | _ => none
    else none

/-- The first tag of a text: what comes before it and its backslashes, their number, its body, and
what follows it. -/
structure Found where
  before : List Char
  slashes : Nat
  body : List Char
  after : List Char

def tagHere? (cs : List Char) : Option Found :=
  let slashes := (cs.takeWhile (· = '\\')).length
  match cs.drop slashes with
  | '[' :: rest => (tagBody? rest).map fun (body, after) => ⟨[], slashes, body, after⟩
  | _ => none

def nextTag? : List Char → Option Found
  | [] => none
  | c :: cs =>
    match tagHere? (c :: cs) with
    | some found => some found
    | none => (nextTag? cs).map fun found => { found with before := c :: found.before }

theorem tagBody?_length {cs body after : List Char} (h : tagBody? cs = some (body, after)) :
    after.length < cs.length := by
  cases cs with
  | nil => simp [tagBody?] at h
  | cons c cs =>
    simp only [tagBody?] at h
    split at h
    · split at h
      · rename_i heq
        have := congrArg List.length heq
        simp only [List.length_drop, List.length_cons] at this
        simp only [Option.some.injEq, Prod.mk.injEq] at h
        rw [← h.2, List.length_cons]
        omega
      · simp at h
    · simp at h

theorem tagHere?_length {cs : List Char} {found : Found} (h : tagHere? cs = some found) :
    found.after.length < cs.length := by
  simp only [tagHere?] at h
  split at h
  · rename_i heq
    obtain ⟨p, hp, rfl⟩ := Option.map_eq_some_iff.1 h
    have := tagBody?_length hp
    have hl := congrArg List.length heq
    simp only [List.length_drop, List.length_cons] at hl
    simp only
    omega
  · simp at h

theorem nextTag?_length {cs : List Char} {found : Found} (h : nextTag? cs = some found) :
    found.after.length < cs.length := by
  induction cs generalizing found with
  | nil => simp [nextTag?] at h
  | cons c cs ih =>
    simp only [nextTag?] at h
    split at h
    · rename_i heq
      cases h
      exact tagHere?_length heq
    · obtain ⟨f, hf, rfl⟩ := Option.map_eq_some_iff.1 h
      have := ih hf
      simp only [List.length_cons]
      omega

def bracketed (body : List Char) : List Char := '[' :: body ++ [']']

def escapeTags (cs : List Char) : List Char :=
  match _h : nextTag? cs with
  | none => cs
  | some found =>
    found.before ++ List.replicate (2 * found.slashes + 1) '\\' ++ bracketed found.body ++
      escapeTags found.after
  termination_by cs.length
  decreasing_by exact nextTag?_length _h

def endsInSlash (cs : List Char) : Bool :=
  match cs.reverse with
  | ['\\'] => true
  | '\\' :: c :: _ => c ≠ '\\'
  | _ => false

/-- A text as markup that shows it: its tags are escaped, and a single backslash at its end is
doubled. -/
def escapeChars (cs : List Char) : List Char :=
  let escaped := escapeTags cs
  if endsInSlash escaped then escaped ++ ['\\'] else escaped

def escape (s : String) : String := String.ofList (escapeChars s.toList)

inductive Piece where
  | text (cs : List Char)
  | tag (position : Nat) (body : List Char)
  deriving DecidableEq, Repr

def shown (cs : List Char) : List Piece := if cs.isEmpty then [] else [.text cs]

def taggedPieces (position slashes : Nat) (body : List Char) : List Piece :=
  shown (List.replicate (slashes / 2) '\\') ++
    [if slashes % 2 = 1 then .text (bracketed body) else .tag (position + slashes / 2 * 2) body]

def pieces (position : Nat) (cs : List Char) : List Piece :=
  match _h : nextTag? cs with
  | none => shown cs
  | some found =>
    let start := position + found.before.length
    shown found.before ++ taggedPieces start found.slashes found.body ++
      pieces (start + found.slashes + found.body.length + 2) found.after
  termination_by cs.length
  decreasing_by exact nextTag?_length _h

def dropSlashes : List Char → List Char
  | '\\' :: '[' :: cs => '[' :: dropSlashes cs
  | c :: cs => c :: dropSlashes cs
  | [] => []

def pictureForms : List (List Char × Char) :=
  [("-emoji".toList, '\ufe0f'), ("-text".toList, '\ufe0e')]

def pictureOf? (name : List Char) : Option (List Char) :=
  pictures.lookup (String.ofList (Text.lower name))

def picture? (name : List Char) : Option (List Char) :=
  let bare := pictureForms.find? fun form => form.1.isSuffixOf name
  match bare with
  | some (ending, mark) =>
    (pictureOf? (name.take (name.length - ending.length))).map (· ++ [mark])
  | none => pictureOf? name

def putPictures : List Char → List Char
  | [] => []
  | c :: cs =>
    if c = ':' then
      let name := cs.takeWhile fun d => !(d = ':' || Text.isBlank d)
      match _h : cs.drop name.length with
      | ':' :: after => (picture? name).getD (':' :: name ++ [':']) ++ putPictures after
      | _ => c :: putPictures cs
    else c :: putPictures cs
  termination_by cs => cs.length
  decreasing_by
    · have := congrArg List.length _h
      simp only [List.length_drop, List.length_cons] at this ⊢
      omega
    · simp
    · simp

/-- A control character that is never shown: bell, backspace, vertical tab, form feed and carriage
return. -/
def isHidden (c : Char) : Bool :=
  let n := c.toNat
  n == 7 || n == 8 || n == 11 || n == 12 || n == 13

def shownChars (cs : List Char) : List Char :=
  (putPictures (dropSlashes cs)).filter (!isHidden ·)

/-- A style's name, whatever the blanks around it and the case of its letters. -/
def styleName (cs : List Char) : List Char := Text.lower (Text.trim cs)

def nameOf (body : List Char) : List Char := body.takeWhile (· ≠ '=')

def closeFault (position : Nat) (body name : List Char) : Fault :=
  if name.isEmpty then
    .markup ("closing tag '[/]' at position " ++ toString position ++ " has nothing to close")
  else
    .markup ("closing tag '" ++ String.ofList (bracketed body) ++ "' at position " ++
      toString position ++ " doesn't match any open tag")

def close? (name : List Char) (opened : List (List Char)) : Option (List (List Char)) :=
  if name.isEmpty then opened.tail? else
  if opened.contains (styleName name) then some (opened.erase (styleName name)) else none

def showPieces (opened : List (List Char)) : List Piece → Except Fault (List Char)
  | [] => .ok []
  | .text cs :: rest => (shownChars cs ++ ·) <$> showPieces opened rest
  | .tag position body :: rest =>
    match nameOf body with
    | '/' :: name =>
      let name := Text.trim name
      match close? name opened with
      | some opened => showPieces opened rest
      | none => .error (closeFault position body name)
    | name => showPieces (styleName name :: opened) rest

def render (cs : List Char) : Except Fault (List Char) := showPieces [] (pieces 0 cs)

end Stepwise.Console.Markup
