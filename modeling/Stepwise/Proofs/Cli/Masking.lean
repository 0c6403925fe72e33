import Mathlib.Data.List.Forall2
import Stepwise.Proofs.Cli.Rejection
import Stepwise.Proofs.Definition.Building
import Stepwise.Proofs.Env.Secrets

/-! Secrets are not displayed. Everything that is shown of a pipeline is a function of its masked
environments, so two pipelines that differ in the values of secrets only are displayed alike, down
to the widths of columns and to what breaks the display down. -/
namespace Stepwise

/-- Two steps differ in the values of secrets only. -/
structure Step.SameButSecrets (s t : Step) : Prop where
  command : s.command = t.command
  description : s.description = t.description
  env : s.env.SameButSecrets t.env
  cwd : s.cwd = t.cwd

/-- Two pipelines differ in the values of secrets only. -/
structure Pipeline.SameButSecrets (p q : Pipeline) : Prop where
  name : p.name = q.name
  steps : List.Forall₂ Step.SameButSecrets p.steps q.steps
  env : p.env.SameButSecrets q.env

namespace Cli

open Console (printed)

section Pipelines

variable {p q : Pipeline}

theorem stepRow_sameButSecrets {s t : Step} (h : s.SameButSecrets t) (index : Nat) :
    stepRow index s = stepRow index t := by
  obtain ⟨command, description, env, cwd⟩ := h
  have masked : s.env.mask = t.env.mask := Env.mask_eq_mask_iff.mpr env
  simp only [stepRow, envLine, command, description, masked, cwd]

theorem stepsTable_sameButSecrets (h : p.SameButSecrets q) : stepsTable p = stepsTable q := by
  have size : p.size = q.size := h.steps.length_eq
  have rows : ∀ {steps steps' : List Step}, List.Forall₂ Step.SameButSecrets steps steps' →
      ∀ indices : List Nat, indices.zipWith stepRow steps = indices.zipWith stepRow steps' := by
    intro steps steps' alike
    -- The indices stay free, since the later steps go on with later ones.
    induction alike with
    | nil => exact fun indices => rfl
    | cons first others ih =>
      intro indices
      cases indices with
      | nil => rfl
      | cons index indices =>
        rw [List.zipWith_cons_cons, List.zipWith_cons_cons, stepRow_sameButSecrets first, ih]
  simp only [stepsTable, h.name, size, rows h.steps]

/-- All lines about a pipeline are those of any other one that differs in the values of secrets
only, and so are the faults of lines that cannot be printed. -/
theorem pipelineLines_sameButSecrets (h : p.SameButSecrets q) (width : Nat) :
    pipelineLines width p = pipelineLines width q := by
  have masked : p.env.mask = q.env.mask := Env.mask_eq_mask_iff.mpr h.env
  have bare : p.env.isEmpty = q.env.isEmpty := by
    rw [Env.isEmpty_eq_names, Env.isEmpty_eq_names, h.env.names]
  simp only [pipelineLines, stepsTable_sameButSecrets h, bare, masked]

end Pipelines

section Commands

variable {σ τ : Type} {host : Host σ} {host' : Host τ} {around around' : Surroundings}
  {state : σ} {state' : τ} {p q : Pipeline}

def checkedFile (w : World) (file : Option String) : Except Fault (Option Path) :=
  match file with
  | some f => .ok (some (Path.ofString f))
  | none => Pipeline.find w (here w)

/-- The file that `validate` checks holds a definition, which makes a pipeline. -/
def Checks (explain : Yaml.Explain) (w : World) (file : Option String) (p : Pipeline) : Prop :=
  ∃ path d, checkedFile w file = .ok (some path) ∧ Definition.load explain w path = .ok d ∧
    d.toPipeline none ∅ = .ok p

theorem checks_of_loaded {explain : Yaml.Explain} {w : World} {file : String} {d : Definition}
    (loaded : Definition.load explain w (Path.ofString file) = .ok d) :
    Checks explain w (some file) (d.built d.spec.formatMode ∅) :=
  ⟨Path.ofString file, d, rfl, loaded, d.toPipeline_eq_built none ∅⟩

theorem Checks.validateCommand_eq {file : Option String}
    (h : Checks around.explain (host.world state) file p) :
    validateCommand host around file state =
      .printing (pipelineLines around.width p ++ [printed around.width "[green]Valid[/green]"])
        (.code 0) [] state := by
  obtain ⟨path, d, source, loaded, made⟩ := h
  have found : Resolution.ofDefinition (fun d => d.toPipeline none ∅)
      (Definition.load around.explain (host.world state) path) = .found p := by
    simp only [loaded, Resolution.ofDefinition, made, Resolution.ofConfiguration]
  unfold validateCommand
  cases file with
  | some f =>
    obtain rfl : Path.ofString f = path := Option.some.inj (Except.ok.inj source)
    simp only
    rw [found]
  | none =>
    have source : Pipeline.find (host.world state) (here (host.world state)) = .ok (some path) :=
      source
    simp only
    rw [source]
    simp only
    rw [found]

theorem Checks.resolve_eq {w : World} {file : String} (h : Checks around.explain w (some file) p)
    {s : RunSettings} (source : s.file = some file) (preset : s.preset = none)
    (env_file : s.envFile = none) (mode : s.mode = none) :
    resolve w around s = (.found p, []) := by
  obtain ⟨path, d, same, loaded, made⟩ := h
  cases same
  rw [resolve_file w around source preset env_file, loaded, mode]
  simp only [Resolution.ofDefinition, made, Resolution.ofConfiguration]

/-- Two commands show the same and end alike, and neither runs anything. -/
structure ShowsSame (o : Outcome σ) (o' : Outcome τ) : Prop where
  stdout : o.stdout = o'.stdout
  exit : o.exit = o'.exit
  trace : o.trace = [] ∧ o'.trace = []
  executor : o.executor = none ∧ o'.executor = none

theorem showsSame_printing (lines : List (Except Fault String)) (exit : Exit)
    (records records' : List LogRecord) (state : σ) (state' : τ) :
    ShowsSame (.printing lines exit records state) (.printing lines exit records' state') :=
  ⟨rfl, rfl, ⟨rfl, rfl⟩, rfl, rfl⟩

/-- Nothing that is displayed depends on a secret: pipelines that differ in the values of secrets
only have the same lines, and `validate` and `run --dry-run` show them alike, wherever they are from.
Masking keeps the names in their order and the values of all others, and is done once and for all.
A name is that of a secret whatever the case of its letters. -/
theorem display_independent :
    (∀ p q : Pipeline, p.SameButSecrets q → ∀ width, pipelineLines width p = pipelineLines width q) ∧
    (∀ {σ τ : Type} (host : Host σ) (host' : Host τ) (around around' : Surroundings) (state : σ)
      (state' : τ) (file file' : Option String) (p q : Pipeline), p.SameButSecrets q →
      around.width = around'.width → Checks around.explain (host.world state) file p →
      Checks around'.explain (host'.world state') file' q →
      ShowsSame (validateCommand host around file state)
        (validateCommand host' around' file' state')) ∧
    (∀ {σ τ : Type} (host : Host σ) (host' : Host τ) (around around' : Surroundings) (state : σ)
      (state' : τ) (s s' : RunSettings) (p q : Pipeline) (records records' : List LogRecord),
      p.SameButSecrets q → around.width = around'.width →
      (s.check && s.fix) = false → (s'.check && s'.fix) = false →
      s.dryRun = true → s'.dryRun = true →
      resolve (host.world state) around s = (.found p, records) →
      resolve (host'.world state') around' s' = (.found q, records') →
      ShowsSame (runCommand host around s state) (runCommand host' around' s' state')) ∧
    (∀ e : Env, e.mask.names = e.names ∧
      (∀ name, e.mask.get? name =
        (e.get? name).map fun value => if Env.isSensitive name then "****" else value) ∧
      e.mask.mask = e.mask) ∧
    ∀ name name' : String, name.toList.map Char.toUpper = name'.toList.map Char.toUpper →
      Env.isSensitive name = Env.isSensitive name' := by
  refine ⟨fun p q => pipelineLines_sameButSecrets, ?_, ?_, ?_, fun _ _ =>
    Env.isSensitive_of_map_toUpper⟩
  · intro σ τ host host' around around' state state' file file' p q alike width checks checks'
    rw [checks.validateCommand_eq, checks'.validateCommand_eq, pipelineLines_sameButSecrets alike,
      width]
    exact showsSame_printing _ _ _ _ _ _
  · intro σ τ host host' around around' state state' s s' p q records records' alike width mode
      mode' dry dry' resolved resolved'
    rw [runCommand_of_dryRun mode resolved dry, runCommand_of_dryRun mode' resolved' dry',
      pipelineLines_sameButSecrets alike, width]
    exact showsSame_printing _ _ _ _ _ _
  · exact fun e => ⟨e.names_mask, e.get?_mask, e.mask_mask⟩

end Commands

section Vault

def smallText (entries : String) : String :=
  "apiVersion: buildpipe/v1\nkind: Pipeline\nmetadata: \x7bname: ab\x7d\nspec:\n  env: \x7b" ++
    entries ++ "\x7d\n  steps:\n  - run: make\n"

def smallWorld (entries : String) : World :=
  ⟨[(["work"], .directory),
    (["work", "s.yaml"], .file (Text.Utf8.encode (smallText entries).toList) false)], ["work"]⟩

def smallPipeline (entries : List (String × String)) : Pipeline :=
  ⟨"ab", [⟨["make"], "", ∅, none, rfl⟩], .ofPairs entries, List.cons_ne_nil _ _⟩

def vault (secret : String) : World := smallWorld ("USER: me, a_key: " ++ secret)

def vaultPipeline (secret : String) : Pipeline :=
  smallPipeline [("USER", "me"), ("a_key", secret)]

deriving instance DecidableEq for Pipeline

theorem loaded_of_test (explain : Yaml.Explain) (w : World) (file : String) (p : Pipeline)
    (test : (match Definition.load explain w (Path.ofString file) with
      | .ok d => d.built d.spec.formatMode ∅ = p
      | .error _ => false) = true) :
    ∃ d, Definition.load explain w (Path.ofString file) = .ok d ∧ d.built d.spec.formatMode ∅ = p := by
  split at test
  · rename_i d loaded
    exact ⟨d, loaded, by simpa using test⟩
  · cases test

/-- A secret in a file, whatever it is, changes nothing of what is displayed. -/
theorem display_independent_vault :
    vaultPipeline "xyzzy" ≠ vaultPipeline "plugh" ∧
    pipelineLines 80 (vaultPipeline "xyzzy") = pipelineLines 80 (vaultPipeline "plugh") ∧
    ShowsSame (validateCommand idle .bare (some "s.yaml") (vault "xyzzy"))
      (validateCommand idle .bare (some "s.yaml") (vault "plugh")) ∧
    ShowsSame (runCommand idle .bare
        { RunSettings.default with file := some "s.yaml", dryRun := true } (vault "xyzzy"))
      (runCommand idle .bare
        { RunSettings.default with file := some "s.yaml", dryRun := true } (vault "plugh")) ∧
    Env.isSensitive "a_key" = Env.isSensitive "A_kEy" := by
  obtain ⟨lines, validates, runs, masks, cases⟩ := display_independent
  have alike : (vaultPipeline "xyzzy").SameButSecrets (vaultPipeline "plugh") := by
    refine ⟨rfl, List.forall₂_same.mpr fun s _ => ⟨rfl, rfl, ⟨rfl, fun _ _ => rfl⟩, rfl⟩, ?_⟩
    exact Env.mask_eq_mask_iff.mp (by decide)
  have first : Checks Surroundings.bare.explain (vault "xyzzy") (some "s.yaml")
      (vaultPipeline "xyzzy") := by
    obtain ⟨d, loaded, made⟩ := loaded_of_test Surroundings.bare.explain (vault "xyzzy")
      "s.yaml" (vaultPipeline "xyzzy") (by decide +kernel)
    exact made ▸ checks_of_loaded loaded
  have second : Checks Surroundings.bare.explain (vault "plugh") (some "s.yaml")
      (vaultPipeline "plugh") := by
    obtain ⟨d, loaded, made⟩ := loaded_of_test Surroundings.bare.explain (vault "plugh")
      "s.yaml" (vaultPipeline "plugh") (by decide +kernel)
    exact made ▸ checks_of_loaded loaded
  refine ⟨by decide, lines _ _ alike 80, validates _ _ _ _ _ _ _ _ _ _ alike rfl first second, ?_,
    cases _ _ rfl⟩
  exact runs _ _ _ _ _ _ _ _ _ _ _ _ alike rfl rfl rfl rfl rfl
    (first.resolve_eq rfl rfl rfl rfl) (second.resolve_eq rfl rfl rfl rfl)

end Vault

end Cli

end Stepwise
