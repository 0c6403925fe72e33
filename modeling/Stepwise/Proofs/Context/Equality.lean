import Stepwise.Proofs.Context.Composition
import Stepwise.Proofs.Env.Equality

/-! Equality of steps and of contexts. It takes their variables as a mapping, and all that is done
with contexts respects it, whatever the order in which the variables are kept and however the
directories are written. -/
namespace Stepwise

theorem Step.same_iff {s t : Step} : s.same t = true ↔ s.key = t.key ∧ Env.Same s.env t.env := by
  rw [Step.same, Bool.and_eq_true, decide_eq_true_eq, Env.same_iff]

theorem Step.same_equivalence : Equivalence fun s t : Step => s.same t = true :=
  Env.keyed_equivalence Step.key Step.env same_iff

namespace Context

variable {a b : Context}

theorem same_iff : a.same b = true ↔ a.key = b.key ∧ Env.Same a.env b.env := by
  rw [same, Bool.and_eq_true, decide_eq_true_eq, Env.same_iff]
  rfl

theorem same_equivalence : Equivalence fun a b : Context => a.same b = true :=
  Env.keyed_equivalence key Context.env same_iff

theorem placed_congr {d d' : Option Directory} (h : d.map Directory.toPath = d'.map Directory.toPath)
    (p : Path) : placed p d = placed p d' := by
  have through : ∀ d : Option Directory, placed p d = (d.map Directory.toPath).elim p (p / ·) := by
    intro d
    cases d <;> rfl
  rw [through, h, ← through]

theorem same_override {e f : Env} {d d' : Option Directory} (h : a.same b = true)
    (env : Env.Same e f) (dir : d.map Directory.toPath = d'.map Directory.toPath) :
    (a.override e d).same (b.override f d') = true := by
  obtain ⟨cwd, layers⟩ := same_iff.mp h
  rw [override_eq, override_eq, same_iff]
  refine ⟨?_, layers.update env⟩
  show placed a.cwd d = placed b.cwd d'
  rw [placed_congr dir, show a.cwd = b.cwd from cwd]

theorem same_forStep {s t : Step} (h : a.same b = true) (steps : s.same t = true) :
    (a.forStep s).same (b.forStep t) = true := by
  obtain ⟨key, env⟩ := Step.same_iff.mp steps
  obtain ⟨-, -, cwd⟩ : s.command = t.command ∧ s.description = t.description ∧ s.cwd = t.cwd := by
    simpa [Step.key] using key
  rw [forStep_eq_override, forStep_eq_override]
  exact same_override h env (congrArg _ cwd)

theorem same_override_comm {e f : Env} (h : Env.Agree e f) (c : Context) :
    ((c.override e none).override f none).same ((c.override f none).override e none) = true :=
  same_iff.mpr ⟨rfl, h.update_comm c.env⟩

/-- Equality of steps and of contexts is an equivalence: all but the variables are equal, the
directory of a context as a path, and every variable has the same value on both sides. Equal values
have equal places in hash tables, which their variables have no part in. Deriving the context of a
step and overriding respect equality, and overrides that agree may be made in either order. -/
theorem equality_congruent :
    Equivalence (fun s t : Step => s.same t = true) ∧
    Equivalence (fun a b : Context => a.same b = true) ∧
    (∀ s t : Step, s.same t = true ↔ s.command = t.command ∧ s.description = t.description ∧
      s.cwd = t.cwd ∧ ∀ name, s.env.get? name = t.env.get? name) ∧
    (∀ a b : Context, a.same b = true ↔ a.cwd = b.cwd ∧
      ∀ name, a.env.get? name = b.env.get? name) ∧
    (∀ s t : Step, s.same t = true → s.key = t.key) ∧
    (∀ a b : Context, a.same b = true → a.key = b.key) ∧
    (∀ (s : Step) (c : Context) (env : Env),
      { s with env := env }.key = s.key ∧ { c with env := env }.key = c.key) ∧
    (∀ (a b : Context) (s t : Step), a.same b = true → s.same t = true →
      (a.forStep s).same (b.forStep t) = true) ∧
    (∀ (a b : Context) (e f : Env) (d d' : Option Directory), a.same b = true → e.same f = true →
      d.map Directory.toPath = d'.map Directory.toPath →
      (a.override e d).same (b.override f d') = true) ∧
    ∀ (c : Context) (e f : Env), e.Agree f →
      ((c.override e none).override f none).same ((c.override f none).override e none) = true := by
  refine ⟨Step.same_equivalence, same_equivalence, ?_, fun a b => same_iff,
    fun s t h => (Step.same_iff.mp h).1, fun a b h => (same_iff.mp h).1,
    fun s c env => ⟨rfl, rfl⟩, fun a b s t => same_forStep, ?_, fun c e f agree =>
    same_override_comm agree c⟩
  · intro s t
    rw [Step.same_iff, Step.key, Step.key, Prod.mk.injEq, Prod.mk.injEq, and_assoc, and_assoc]
    rfl
  · intro a b e f d d' contexts env
    exact same_override contexts (Env.same_iff.mp env)

/-- Contexts and steps that are kept in different orders, and directories that are written in
different ways. The two orders of the overrides leave different orders of the variables. -/
theorem equality_congruent_orders :
    let a : Context := ⟨.ofString "/w", .ofPairs [("A", "1"), ("B", "2")]⟩
    let b : Context := ⟨.ofString "/w/.", .ofPairs [("B", "2"), ("A", "1")]⟩
    let s : Step := ⟨["make"], "", .ofPairs [("B", "3"), ("C", "4")], some (.text "src"), rfl⟩
    let t : Step := ⟨["make"], "", .ofPairs [("C", "4"), ("B", "3")], some (.text "src"), rfl⟩
    let first := (a.override s.env none).override (.ofPairs [("D", "5"), ("C", "4")]) none
    let second := (a.override (.ofPairs [("D", "5"), ("C", "4")]) none).override s.env none
    a ≠ b ∧ s ≠ t ∧ a.key = b.key ∧ s.key = t.key ∧
    (a.forStep s).same (b.forStep t) = true ∧
    (a.override s.env (some (.text "src//"))).same (b.override t.env (some (.text "./src"))) = true ∧
    first.same second = true ∧ first.env.names ≠ second.env.names := by
  intro a b s t first second
  obtain ⟨-, -, -, -, step_key, context_key, -, derives, overrides, commutes⟩ :=
    equality_congruent
  have alike : a.same b = true := by decide
  have alike' : s.same t = true := by decide
  have agree : s.env.Agree (.ofPairs [("D", "5"), ("C", "4")]) := by
    intro name value value' mine yours
    have known : name ∈ s.env.names := Env.mem_names_iff.mpr (by rw [mine]; rfl)
    have names : s.env.names = ["B", "C"] := by decide
    rw [names] at known
    simp only [List.mem_cons, List.not_mem_nil, or_false] at known
    rcases known with rfl | rfl
    · cases yours
    · cases mine
      cases yours
      rfl
  exact ⟨by decide, by decide, context_key a b alike, step_key s t alike', derives a b s t alike alike',
    overrides a b _ _ _ _ alike (by decide) (by decide), commutes a _ _ agree, by decide⟩

end Context

end Stepwise
