/-!
Line ends. A line feed, a carriage return, or the one after the other ends a line; `unifyNewlines`
writes each as a line feed. Displayed texts are measured line by line, and there more characters
count as ends of lines.
-/
namespace Stepwise.Text

def unifyNewlines : List Char → List Char
  | [] => []
  | '\r' :: '\n' :: cs => '\n' :: unifyNewlines cs
  | '\r' :: cs => '\n' :: unifyNewlines cs
  | c :: cs => c :: unifyNewlines cs

def splitWhere (p : Char → Bool) : List Char → List (List Char)
  | [] => [[]]
  | c :: cs =>
    if p c then [] :: splitWhere p cs
    else match splitWhere p cs with
      | [] => [[c]]
      | piece :: pieces => (c :: piece) :: pieces

def splitAt (sep : Char) (cs : List Char) : List (List Char) :=
  splitWhere (· = sep) cs

def joinWith (sep : List Char) : List (List Char) → List Char
  | [] => []
  | [piece] => piece
  | piece :: pieces => piece ++ sep ++ joinWith sep pieces

theorem splitWhere_ne_nil (p : Char → Bool) (cs : List Char) : splitWhere p cs ≠ [] := by
  induction cs with
  | nil => simp [splitWhere]
  | cons c cs ih =>
    unfold splitWhere
    split
    · simp
    · split <;> simp

theorem joinWith_splitAt (sep : Char) (cs : List Char) : joinWith [sep] (splitAt sep cs) = cs := by
  unfold splitAt
  induction cs with
  | nil => rfl
  | cons c cs ih =>
    obtain ⟨piece, pieces, h⟩ := List.exists_cons_of_ne_nil (splitWhere_ne_nil (· = sep) cs)
    rw [h] at ih
    by_cases hc : c = sep
    · simp [splitWhere, hc, h, joinWith, ih]
    · cases pieces <;> simp_all [splitWhere, joinWith]

def isLineEnd (c : Char) : Bool :=
  let n := c.toNat
  (0x0a ≤ n && n ≤ 0x0d) || (0x1c ≤ n && n ≤ 0x1e) || n == 0x85 || n == 0x2028 || n == 0x2029

/-- The lines of a displayed text, without their ends; nothing follows a last line end. -/
def displayLines (cs : List Char) : List (List Char) :=
  let pieces := splitWhere isLineEnd (unifyNewlines cs)
  if pieces.getLast? = some [] then pieces.dropLast else pieces

end Stepwise.Text
