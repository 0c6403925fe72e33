import Stepwise.Proofs.Context.Derivation
import Stepwise.Proofs.Run.Trace

/-! The contexts that a run hands over. The context of a step is made of the base context, the
pipeline's variables and what the step asks for, and of nothing else: no other step and no earlier
answer has a part in it. -/
namespace Stepwise

theorem Pipeline.baseContext_eq_override (p : Pipeline) (base : Context) :
    p.baseContext base = base.override p.env none := by
  unfold Pipeline.baseContext
  split
  · rename_i plain
    simp [Context.override, Env.update_of_isEmpty plain]
  · rfl

namespace Course

variable {σ ε : Type}

/-- Each command that a run hands over is that of the step in its place, in the context that the
base, the variables of the pipeline and this step make up. -/
theorem run_contexts (ex : Executor σ ε) (hooks : Hooks σ ε) (base : Context) (p : Pipeline)
    (runId : String) (w : σ) (i : Nat) (command : String) (args : List String) (c : Context)
    (handed : (calls (p.run ex hooks base runId w).trace)[i]? = some (command, args, c)) :
    ∃ s, p.steps[i]? = some s ∧ command = s.executable ∧ args = s.args ∧
      Context.Layered base p.env s c := by
  obtain ⟨k, -, first, -⟩ := (run_traceLaw ex hooks p base runId w).calls_eq
  rw [first, List.getElem?_map, Option.map_eq_some_iff] at handed
  obtain ⟨s, place, call⟩ := handed
  obtain ⟨rfl, rfl, rfl⟩ : s.executable = command ∧ s.args = args ∧ _ = c := by
    simpa [callOf] using call
  have inside : p.steps[i]? = some s := by
    rw [List.getElem?_take] at place
    split at place
    · exact place
    · cases place
  refine ⟨s, inside, rfl, rfl, ?_⟩
  rw [Context.forStep_eq_override, p.baseContext_eq_override]
  exact Context.layered base p.env s

/-- The second command of a run with all layers set: each name once, and a normal directory. -/
theorem run_contexts_second :
    ∃ c, (calls (build.run listed .silent source "run"
        [.completed ⟨0, none, none, 5⟩, .completed ⟨0, none, none, 9⟩]).trace)[1]? =
        some ("make", ["test"], c) ∧
      c.env.pairs = [("HOME", "/work"), ("PATH", "/bin"), ("MODE", "slow"), ("JOBS", "4")] ∧
      c.cwd = ⟨.slash, ["tmp", "out"]⟩ ∧
      ∃ s, build.steps[1]? = some s ∧ "make" = s.executable ∧ ["test"] = s.args ∧
        Context.Layered source build.env s c :=
  ⟨_, rfl, by decide, by decide, run_contexts listed .silent source build "run"
    [.completed ⟨0, none, none, 5⟩, .completed ⟨0, none, none, 9⟩] 1 _ _ _ rfl⟩

end Course

end Stepwise
