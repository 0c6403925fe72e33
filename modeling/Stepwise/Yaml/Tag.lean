/-!
Tags: the kinds of node that a document has. A plain scalar without a tag gets the first kind whose
written forms it has one of, and is a text otherwise.
-/
namespace Stepwise.Yaml

inductive Tag where
  | null
  | bool
  | int
  | float
  | binary
  | timestamp
  | omap
  | pairs
  | set
  | str
  | seq
  | map
  /-- The key under which other maps are merged into one. -/
  | merge
  /-- The key of a map's default value. -/
  | value
  | other
  deriving DecidableEq, Repr

namespace Tag

def standard : String := "tag:yaml.org,2002:"

def names : List (String × Tag) :=
  [("null", null), ("bool", bool), ("int", int), ("float", float), ("binary", binary),
    ("timestamp", timestamp), ("omap", omap), ("pairs", pairs), ("set", set), ("str", str),
    ("seq", seq), ("map", map), ("merge", merge), ("value", value)]

def ofName (name : String) : Tag :=
  ((names.map fun p => (standard ++ p.1, p.2)).lookup name).getD other

def truthWords : List (String × Bool) :=
  [("yes", true), ("no", false), ("true", true), ("false", false), ("on", true), ("off", false)]

def isCased (cs : List Char) : Bool :=
  match cs with
  | [] => true
  | c :: rest =>
    rest.all (fun d => !d.isUpper) || (c.isUpper && rest.all fun d => !d.isLower)

def isTruthWord (cs : List Char) : Bool :=
  isCased cs && (truthWords.map Prod.fst).contains (String.ofList (cs.map Char.toLower))

def isNull (cs : List Char) : Bool :=
  ["", "~", "null", "Null", "NULL"].contains (String.ofList cs)

def withoutSign : List Char → List Char
  | '+' :: cs => cs
  | '-' :: cs => cs
  | cs => cs

def isDigitOr_ (c : Char) : Bool := c.isDigit || c = '_'

/-- Parts of at most two digits below sixty, each after a colon; there is at least one. -/
def isSexagesimalTail (cs : List Char) : Bool :=
  match cs with
  | [':', b] => b.isDigit
  | [':', a, b] => '0' ≤ a && a ≤ '5' && b.isDigit
  | ':' :: b :: ':' :: rest => b.isDigit && isSexagesimalTail (':' :: rest)
  | ':' :: a :: b :: ':' :: rest =>
    '0' ≤ a && a ≤ '5' && b.isDigit && isSexagesimalTail (':' :: rest)
  | _ => false

def isInt (cs : List Char) : Bool :=
  match withoutSign cs with
  | ['0'] => true
  | '0' :: 'b' :: ds => !ds.isEmpty && ds.all fun c => c = '0' || c = '1' || c = '_'
  | '0' :: 'x' :: ds =>
    !ds.isEmpty && ds.all fun c =>
      isDigitOr_ c || ('a' ≤ c && c ≤ 'f') || ('A' ≤ c && c ≤ 'F')
  | '0' :: ds => ds.all fun c => ('0' ≤ c && c ≤ '7') || c = '_'
  | c :: ds =>
    let tail := ds.dropWhile isDigitOr_
    c.isDigit && (tail.isEmpty || isSexagesimalTail tail)
  | [] => false

def isExponent : List Char → Bool
  | [] => true
  | e :: s :: ds =>
    (e = 'e' || e = 'E') && (s = '+' || s = '-') && !ds.isEmpty && ds.all Char.isDigit
  | _ => false

def isFloat (cs : List Char) : Bool :=
  let word := String.ofList cs
  let bare := withoutSign cs
  [".nan", ".NaN", ".NAN"].contains word ||
    [".inf", ".Inf", ".INF"].contains (String.ofList bare) ||
    (match cs with
      | '.' :: c :: rest => c.isDigit && isExponent (rest.dropWhile isDigitOr_)
      | _ => false) ||
    (match bare with
      | c :: rest =>
        c.isDigit &&
          match rest.dropWhile isDigitOr_ with
          | '.' :: rest => isExponent (rest.dropWhile isDigitOr_)
          | tail =>
            let parts := tail.takeWhile (· ≠ '.')
            match tail.dropWhile (· ≠ '.') with
            | '.' :: rest => isSexagesimalTail parts && rest.all isDigitOr_
            | _ => false
      | [] => false)

end Tag

structure Stamp where
  year : List Char
  month : List Char
  day : List Char
  time : Option (List Char × List Char × List Char)
  fraction : List Char
  offset : Option (Char × List Char × List Char)
  universal : Bool
  deriving Repr

namespace Stamp

def digits? (least most : Nat) (cs : List Char) : Option (List Char × List Char) :=
  let ds := (cs.takeWhile Char.isDigit).take most
  if ds.length < least then none else some (ds, cs.drop ds.length)

def after? (c : Char) : List Char → Option (List Char)
  | d :: rest => if c = d then some rest else none
  | [] => none

def isBlank (c : Char) : Bool := c = ' ' || c = '\t'

def withOffset? (s : Stamp) (cs : List Char) : Option Stamp :=
  match cs.dropWhile isBlank with
  | [] => if cs.isEmpty then some s else none
  | ['Z'] => some { s with universal := true }
  | sign :: rest =>
    if sign = '+' || sign = '-' then do
      let (hours, rest) ← digits? 1 2 rest
      if rest.isEmpty then some { s with offset := some (sign, hours, []) }
      else
        let (minutes, rest) ← digits? 2 2 (← after? ':' rest)
        if rest.isEmpty then some { s with offset := some (sign, hours, minutes) } else none
    else none

def ofText? (cs : List Char) : Option Stamp := do
  let (year, rest) ← digits? 4 4 cs
  let (month, rest) ← digits? 1 2 (← after? '-' rest)
  let (day, rest) ← digits? 1 2 (← after? '-' rest)
  let date : Stamp := ⟨year, month, day, none, [], none, false⟩
  match rest with
  | [] => some date
  | c :: more =>
    let time ←
      if c = 'T' || c = 't' then some more
      else if isBlank c then some (rest.dropWhile isBlank)
      else none
    let (hour, rest) ← digits? 1 2 time
    let (minute, rest) ← digits? 2 2 (← after? ':' rest)
    let (second, rest) ← digits? 2 2 (← after? ':' rest)
    let (fraction, rest) := match rest with
      | '.' :: rest => (rest.takeWhile Char.isDigit, rest.dropWhile Char.isDigit)
      | rest => ([], rest)
    withOffset? { date with time := some (hour, minute, second), fraction := fraction } rest

def isPlain (cs : List Char) : Bool :=
  match ofText? cs with
  | some s => s.time.isSome || (s.month.length = 2 && s.day.length = 2)
  | none => false

end Stamp

/-- The text without one line feed at its end, which written forms may have. -/
def withoutLastFeed (cs : List Char) : List Char :=
  if cs.getLast? = some '\n' then cs.dropLast else cs

def Tag.implicit (text : List Char) : Tag :=
  let cs := withoutLastFeed text
  if isTruthWord cs && !cs.isEmpty then bool
  else if isFloat cs then float
  else if isInt cs then int
  else if cs = ['<', '<'] then merge
  else if isNull cs && (text.isEmpty || !cs.isEmpty) then null
  else if Stamp.isPlain cs then timestamp
  else if cs = ['='] then value
  else if [['!'], ['&'], ['*']].contains cs then other
  else str

end Stepwise.Yaml
