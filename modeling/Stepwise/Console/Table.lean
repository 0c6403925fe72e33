import Stepwise.Console.Markup
import Stepwise.Console.Wrap
import Stepwise.Decimal.Nearest

/-!
Tables in frames: a title over the whole width, a row of headings and rows of cells, all of them
texts with markup. A column is as wide as its widest line with a space on each side. If the table is
too wide, the widest columns are narrowed first, then all of them by equal shares. A column without
room for more than the spaces shows nothing, and where not even the frame fits its lines are cut.
-/
namespace Stepwise.Console

structure Column where
  heading : String
  justify : Justify

structure Table where
  title : String
  columns : List Column
  rows : List (List String)

namespace Table

def padding : Nat := 2

def frame (columns : Nat) : Nat := columns + 1

def greatest (ns : List Nat) : Nat := ns.foldl max 0

def textWidth (cs : List Char) : Nat :=
  greatest ((Text.displayLines cs).map cells)

def columnWidth (limit : Nat) (texts : List (List Char)) : Nat :=
  if limit < 1 then 0
  else greatest (texts.map fun cs =>
    if limit < padding + 1 then limit else min limit (textWidth cs + padding))

/-- Numbers reduced by a total in equal shares. Only marked ones are, and each by a most. -/
def reduce (remaining shares : Nat) : List (Bool × Nat × Nat) → List Nat
  | [] => []
  | (marked, most, value) :: rest =>
    if marked && shares ≠ 0 then
      let share := min most (Decimal.nearestWhole remaining shares)
      (value - share) :: reduce (remaining - share) (shares - 1) rest
    else value :: reduce remaining shares rest

def reduceMarked (excess : Nat) (slots : List (Bool × Nat × Nat)) : List Nat :=
  let slots := slots.map fun (marked, most, value) => (marked && most ≠ 0, most, value)
  reduce excess (slots.countP (·.1)) slots

/-- The widest columns narrowed until they are as wide as the next, again and again, while the sum
is above a limit. -/
def narrowWidest (limit : Nat) : Nat → List Nat → List Nat
  | 0, widths => widths
  | fuel + 1, widths =>
    if total widths ≤ limit then widths
    else
      let widest := greatest widths
      let next := greatest (widths.filter (· ≠ widest))
      if widest = next then widths
      else
        let excess := total widths - limit
        narrowWidest limit fuel
          (reduceMarked excess (widths.map fun w => (w = widest, min excess (widest - next), w)))

def fit (limit : Nat) (widths : List Nat) : List Nat :=
  let narrowed := narrowWidest limit (total widths + 1) widths
  if total narrowed ≤ limit then narrowed
  else reduceMarked (total narrowed - limit) (narrowed.map fun w => (true, w, w))

def widths (limit : Nat) (columns : List (List (List Char))) : List Nat :=
  let wanted := columns.map fun texts => max 1 (columnWidth limit texts)
  if total wanted ≤ limit then wanted
  else List.zipWith columnWidth (fit limit wanted) columns

def cellLines (justify : Justify) (width : Nat) (cs : List Char) : List (List Char) :=
  if width ≤ padding then []
  else (wrap .ellipsis justify (width - padding) cs).map fun line =>
    (adjustParts width ([' '] :: adjustParts (width - padding) [line] ++ [[' ']])).flatten

def heighten (height width : Nat) (below : Bool) (lines : List (List Char)) : List (List Char) :=
  let blank := List.replicate (height - lines.length) (List.replicate width ' ')
  if below then lines ++ blank else blank ++ lines

def rowLines (edge : Char) (heading : Bool) (justify : List Justify) (widths : List Nat)
    (row : List (List Char)) : List (List Char) :=
  let laid := List.zipWith (fun (j, w) cs => (w, cellLines j w cs)) (justify.zip widths) row
  let height := max 1 (greatest (laid.map fun c => c.2.length))
  let columns := laid.map fun c => heighten height c.1 (!heading) c.2
  (List.range height).map fun k =>
    edge :: (Text.joinWith [edge] (columns.map fun lines => lines.getD k [])) ++ [edge]

def rule (left line cross right : Char) (widths : List Nat) : List Char :=
  left :: Text.joinWith [cross] (widths.map fun w => List.replicate w line) ++ [right]

def lines (t : Table) (limit : Nat) : Except Fault (List (List Char)) := do
  let headings ← t.columns.mapM fun c => Markup.render c.heading.toList
  let rows ← t.rows.mapM fun row => row.mapM fun cell => Markup.render cell.toList
  let title ← Markup.render t.title.toList
  let count := t.columns.length
  let columns := (List.range count).map fun k =>
    headings.getD k [] :: rows.map fun row => row.getD k []
  let widths := widths (limit - frame count) columns
  let justify := t.columns.map Column.justify
  let size := total widths + frame count
  let all := wrap .fold .center size title ++
    [rule '┏' '━' '┳' '┓' widths] ++ rowLines '┃' true justify widths headings ++
    [rule '┡' '━' '╇' '┩' widths] ++ rows.flatMap (rowLines '│' false justify widths) ++
    [rule '└' '─' '┴' '┘' widths]
  return if size ≤ limit then all else all.map (cut .fold limit)

end Table

end Stepwise.Console
