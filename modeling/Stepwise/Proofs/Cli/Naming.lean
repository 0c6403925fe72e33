import Stepwise.Cli.Resolution
import Stepwise.Proofs.Cli.Lines
import Stepwise.Proofs.Definition.Building

/-! Names of pipelines. Whatever the settings ask for, the pipeline that is found has a name that is
no markup and can be written: a definition's name is checked, and the built-in names are known. -/
namespace Stepwise

theorem plain_of_isSlug {name : String} (h : isSlug name) : Plain name.toList := by
  have letter : ∀ n ≤ 'z'.toNat, 'a'.toNat ≤ n →
      (Console.Markup.isBracket (Char.ofNat n) = false ∧ Char.ofNat n ≠ '\\') ∧
        Text.isLone (Char.ofNat n) = false := by decide
  have slugChar : ∀ c, isSlugChar c →
      (Console.Markup.isBracket c = false ∧ c ≠ '\\') ∧ Text.isLone c = false := by
    intro c slug
    rcases (Bool.or_eq_true _ _).mp slug with small | digit
    · obtain ⟨first, last⟩ : 'a' ≤ c ∧ c ≤ 'z' := by simpa using small
      simpa using letter c.toNat (UInt32.le_iff_toNat_le.mp last) (UInt32.le_iff_toNat_le.mp first)
    · exact Plain.of_digit digit
  unfold isSlug at h
  split at h
  · cases h
  · cases h
  · rename_i first rest _ chars
    obtain ⟨⟨begins, others⟩, -⟩ :
        (isSlugChar first ∧ ∀ c ∈ rest, isSlugChar c ∨ c = '-') ∧
          ∃ c, rest.getLast? = some c ∧ isSlugChar c := by
      simpa [Option.any_eq_true] using h
    rw [chars]
    intro c member
    rcases List.mem_cons.mp member with rfl | later
    · exact slugChar c begins
    · rcases others c later with slug | rfl
      · exact slugChar c slug
      · decide

namespace Cli

def Named : Resolution → Prop
  | .found p => Plain p.name.toList
  | _ => True

theorem named_ofConfiguration {r : Except ConfigurationError Pipeline}
    (h : ∀ p, r = .ok p → Plain p.name.toList) : Named (.ofConfiguration r) := by
  cases r with
  | error e => trivial
  | ok p => exact h p rfl

theorem named_ofDefinition (mode : Option FormatMode) (env : Env)
    (r : Except LoadFailure Definition) :
    Named (.ofDefinition (fun d => d.toPipeline mode env) r) := by
  cases r with
  | error e => cases e <;> trivial
  | ok d =>
    refine named_ofConfiguration fun p made => ?_
    have same := (d.toPipeline_eq_built mode env).symm.trans made
    cases same
    exact plain_of_isSlug d.metadata.name_slug

theorem named_layer {r : Resolution} (h : Named r) (env : Env) : Named (r.layer env) := by
  cases r with
  | found p =>
    show Plain (if env.isEmpty then p else p.withEnv (p.env.update env)).name.toList
    split <;> exact h
  | rejected message => trivial
  | fault f => trivial

theorem named_preset (name : String) (mode : FormatMode) :
    Named (.ofConfiguration (Preset.build name mode)) := by
  refine named_ofConfiguration fun p made => ?_
  unfold Preset.build at made
  split at made
  · rename_i entry found
    cases made
    have known : entry ∈ Preset.all := List.mem_of_find?_eq_some found
    cases List.mem_singleton.mp known
    exact (by decide : Plain "rust".toList)
  · cases made

theorem resolve_named (w : World) (around : Surroundings) (s : RunSettings) :
    Named (resolve w around s).1 := by
  unfold resolve
  split
  · trivial
  · split
    · trivial
    · split
      · trivial
      · trivial
      · unfold pipelineOf
        split
        · exact named_ofDefinition _ _ _
        · exact named_layer (named_preset _ _) _

end Cli

end Stepwise
