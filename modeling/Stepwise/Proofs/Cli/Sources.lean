import Stepwise.Cli.Resolution
import Stepwise.Proofs.Definition.Building

/-! Where a pipeline comes from. Settings name a file or a preset; without either, the definition at
hand is taken, and the default preset if there is none. What the source gives as it is has the
variables of a file laid over its own afterwards, and both ways to do so come to the same. -/
namespace Stepwise

/-- A path leads to a file. -/
structure World.IsFile (w : World) (path : Path) : Prop where
  usable : nameFault? path.toString = none
  file : w.isFile path.toString = .ok true

def World.NoFile (w : World) (path : Path) : Prop :=
  (nameFault? path.toString).isSome ∨ w.isFile path.toString = .ok false

namespace Pipeline

/-- The first of some names that is a file in a directory. -/
inductive FirstFile (w : World) (directory : Path) : List String → Path → Prop where
  | here {name : String} (names : List String) (is : w.IsFile (directory / Path.ofString name)) :
      FirstFile w directory (name :: names) (directory / Path.ofString name)
  | later {name : String} {names : List String} {path : Path}
      (other : w.NoFile (directory / Path.ofString name))
      (rest : FirstFile w directory names path) : FirstFile w directory (name :: names) path

variable {w : World} {directory : Path} {names : List String}

theorem findFile_cons (name : String) (names : List String) :
    findFile w directory (name :: names) =
      if (nameFault? (directory / Path.ofString name).toString).isSome then
        findFile w directory names
      else match w.isFile (directory / Path.ofString name).toString with
        | .ok true => .ok (some (directory / Path.ofString name))
        | .ok false => findFile w directory names
        | .error e => .error (.system (e.message (directory / Path.ofString name).toString)) := by
  rfl

theorem findFile_of_noFile {name : String} (other : w.NoFile (directory / Path.ofString name)) :
    findFile w directory (name :: names) = findFile w directory names := by
  rw [findFile_cons]
  split
  · rfl
  · rename_i usable
    have none := other.resolve_left usable
    rw [none]

theorem findFile_of_isFile {name : String} (is : w.IsFile (directory / Path.ofString name)) :
    findFile w directory (name :: names) = .ok (some (directory / Path.ofString name)) := by
  rw [findFile_cons, is.usable, is.file]
  rfl

theorem findFile_cons_eq_ok {name : String} {found : Option Path}
    (h : findFile w directory (name :: names) = .ok found) :
    (w.IsFile (directory / Path.ofString name) ∧ found = some (directory / Path.ofString name)) ∨
      w.NoFile (directory / Path.ofString name) ∧ findFile w directory names = .ok found := by
  rw [findFile_cons] at h
  split at h
  · rename_i unusable
    exact .inr ⟨.inl unusable, h⟩
  · rename_i usable
    split at h
    · rename_i kind
      exact .inl ⟨⟨by simpa using usable, kind⟩, (Except.ok.inj h).symm⟩
    · rename_i kind
      exact .inr ⟨.inr kind, h⟩
    · cases h

theorem findFile_eq_some {path : Path} :
    findFile w directory names = .ok (some path) ↔ FirstFile w directory names path := by
  induction names with
  | nil =>
    constructor
    · intro h
      cases h
    · intro first
      cases first
  | cons name names ih =>
    constructor
    · intro h
      rcases findFile_cons_eq_ok h with ⟨is, same⟩ | ⟨other, rest⟩
      · cases same
        exact .here names is
      · exact .later other (ih.mp rest)
    · intro first
      cases first with
      | here _ is => exact findFile_of_isFile is
      | later other rest => rw [findFile_of_noFile other, ih.mpr rest]

theorem findFile_eq_none :
    findFile w directory names = .ok none ↔
      ∀ name ∈ names, w.NoFile (directory / Path.ofString name) := by
  induction names with
  | nil =>
    constructor
    · rintro - name ⟨⟩
    · exact fun _ => rfl
  | cons name names ih =>
    rw [List.forall_mem_cons, ← ih]
    constructor
    · intro h
      rcases findFile_cons_eq_ok h with ⟨-, same⟩ | ⟨other, rest⟩
      · cases same
      · exact ⟨other, rest⟩
    · rintro ⟨other, rest⟩
      rw [findFile_of_noFile other, rest]

end Pipeline

namespace Cli

/-- The pipeline that a source gives as it is, in the mode that is asked for. -/
inductive Source (explain : Yaml.Explain) (w : World) (s : RunSettings) (p : Pipeline) : Prop where
  | given {file : String} {d : Definition} (asked : s.file = some file)
      (loaded : Definition.load explain w (Path.ofString file) = .ok d)
      (made : d.toPipeline s.mode ∅ = .ok p)
  | named {name : String} (no_file : s.file = none) (asked : s.preset = some name)
      (built : Preset.build (if name = "" then defaultPreset else name) (s.mode.getD .fix) = .ok p)
  | found {path : Path} {d : Definition} (no_file : s.file = none) (no_preset : s.preset = none)
      (there : Pipeline.FirstFile w (here w) Pipeline.defaultFiles path)
      (loaded : Definition.load explain w path = .ok d) (made : d.toPipeline s.mode ∅ = .ok p)
  | builtIn (no_file : s.file = none) (no_preset : s.preset = none)
      (none_there : ∀ name ∈ Pipeline.defaultFiles, w.NoFile (here w / Path.ofString name))
      (built : Preset.build defaultPreset (s.mode.getD .fix) = .ok p)

namespace Resolution

theorem layer_found (p : Pipeline) (extra : Env) :
    (found p).layer extra = .found (p.withEnv (p.env.update extra)) := by
  by_cases plain : extra.isEmpty
  · rw [Env.update_of_isEmpty plain]
    simp only [layer, plain, if_true]
    rfl
  · simp only [layer, plain, if_false, Bool.false_eq_true]

theorem layer_none (r : Resolution) : r.layer ∅ = r := by
  cases r with
  | found p => rfl
  | rejected message => rfl
  | fault f => rfl

theorem layer_eq_found {r : Resolution} {extra : Env} {p : Pipeline} :
    r.layer extra = .found p ↔ ∃ own, r = .found own ∧ p = own.withEnv (own.env.update extra) := by
  constructor
  · intro h
    cases r with
    | found own =>
      rw [layer_found] at h
      exact ⟨own, rfl, (Resolution.found.inj h).symm⟩
    | rejected message => cases h
    | fault f => cases h
  · rintro ⟨own, rfl, rfl⟩
    exact layer_found own extra

end Resolution

/-- Variables that a definition is given while it is built are those that are laid over its pipeline
later. -/
theorem ofConfiguration_toPipeline (d : Definition) (mode : Option FormatMode) (extra : Env) :
    Resolution.ofConfiguration (d.toPipeline mode extra) =
      (Resolution.ofConfiguration (d.toPipeline mode ∅)).layer extra := by
  have plain : d.spec.env.update ∅ = d.spec.env := Env.update_of_isEmpty rfl
  rw [d.toPipeline_eq_built, d.toPipeline_eq_built]
  simp only [Resolution.ofConfiguration, Resolution.layer_found, Definition.built, plain]
  rfl

theorem pipelineOf_eq_layer (explain : Yaml.Explain) (w : World) (s : RunSettings)
    (file : Option Path) (extra : Env) :
    pipelineOf explain w s file extra = (pipelineOf explain w s file ∅).layer extra := by
  cases file with
  | none => simp only [pipelineOf, Resolution.layer_none]
  | some path =>
    simp only [pipelineOf]
    cases Definition.load explain w path with
    | ok d => exact ofConfiguration_toPipeline d s.mode extra
    | error e => cases e <;> rfl

theorem ofConfiguration_eq_found {r : Except ConfigurationError Pipeline} {p : Pipeline} :
    Resolution.ofConfiguration r = .found p ↔ r = .ok p := by
  cases r with
  | ok q => simp [Resolution.ofConfiguration]
  | error e => simp [Resolution.ofConfiguration]

theorem pipelineOf_file {explain : Yaml.Explain} {w : World} {s : RunSettings} {path : Path}
    {p : Pipeline} :
    pipelineOf explain w s (some path) ∅ = .found p ↔
      ∃ d, Definition.load explain w path = .ok d ∧ d.toPipeline s.mode ∅ = .ok p := by
  cases loaded : Definition.load explain w path with
  | ok d => simp [pipelineOf, loaded, Resolution.ofDefinition, ofConfiguration_eq_found]
  | error e => cases e <;> simp [pipelineOf, loaded, Resolution.ofDefinition]

theorem pipelineOf_preset {explain : Yaml.Explain} {w : World} {s : RunSettings} {p : Pipeline} :
    pipelineOf explain w s none ∅ = .found p ↔
      Preset.build (presetName s) (s.mode.getD .fix) = .ok p := by
  rw [pipelineOf, Resolution.layer_none, ofConfiguration_eq_found]

/-- A source gives a pipeline if the file that is named gives it, or the preset where no file is
named. -/
theorem source_iff {explain : Yaml.Explain} {w : World} {s : RunSettings} {p : Pipeline} :
    Source explain w s p ↔
      ∃ file, sourceFile w s = .ok file ∧ pipelineOf explain w s file ∅ = .found p := by
  constructor
  · intro source
    cases source with
    | given asked loaded made =>
      exact ⟨_, by rw [sourceFile, asked], pipelineOf_file.mpr ⟨_, loaded, made⟩⟩
    | named no_file asked built =>
      refine ⟨none, by rw [sourceFile, no_file, asked], pipelineOf_preset.mpr ?_⟩
      rw [presetName, asked]
      exact built
    | found no_file no_preset there loaded made =>
      refine ⟨_, ?_, pipelineOf_file.mpr ⟨_, loaded, made⟩⟩
      rw [sourceFile, no_file, no_preset]
      exact Pipeline.findFile_eq_some.mpr there
    | builtIn no_file no_preset none_there built =>
      refine ⟨none, ?_, pipelineOf_preset.mpr ?_⟩
      · rw [sourceFile, no_file, no_preset]
        exact Pipeline.findFile_eq_none.mpr none_there
      · rw [presetName, no_preset]
        exact built
  · rintro ⟨file, place, gives⟩
    unfold sourceFile at place
    split at place
    · rename_i name _ asked
      cases place
      obtain ⟨d, loaded, made⟩ := pipelineOf_file.mp gives
      exact .given asked loaded made
    · rename_i name no_file asked
      cases place
      have built := pipelineOf_preset.mp gives
      rw [presetName, asked] at built
      exact .named no_file asked built
    · rename_i no_file no_preset
      cases file with
      | some path =>
        obtain ⟨d, loaded, made⟩ := pipelineOf_file.mp gives
        exact .found no_file no_preset (Pipeline.findFile_eq_some.mp place) loaded made
      | none =>
        have built := pipelineOf_preset.mp gives
        rw [presetName, no_preset] at built
        exact .builtIn no_file no_preset (Pipeline.findFile_eq_none.mp place) built

/-- A pipeline is found exactly if the settings name one source, the variables of the file can be
had and the source gives a pipeline. The variables are laid over those of the pipeline. -/
theorem resolve_eq_found {w : World} {around : Surroundings} {s : RunSettings} {p : Pipeline}
    {records : List LogRecord} :
    resolve w around s = (.found p, records) ↔ (s.file.isSome && s.preset.isSome) = false ∧
      ∃ own extra, extraEnv w around.environ s = .ok (extra, records) ∧
        Source around.explain w s own ∧
        p = own.withEnv (own.env.update extra) := by
  constructor
  · intro h
    unfold resolve at h
    split at h
    · cases h
    · rename_i one
      split at h
      · cases h
      · rename_i file place
        split at h
        · cases h
        · cases h
        · rename_i extra logged more
          obtain ⟨gives, same⟩ := Prod.mk.inj h
          rw [pipelineOf_eq_layer] at gives
          obtain ⟨own, made, layered⟩ := Resolution.layer_eq_found.mp gives
          have source := source_iff.mpr ⟨file, place, made⟩
          exact ⟨by simpa using one, own, extra, same ▸ more, source, layered⟩
  · rintro ⟨one, own, extra, more, source, layered⟩
    obtain ⟨file, place, made⟩ := source_iff.mp source
    have gives := Resolution.layer_eq_found.mpr ⟨own, made, layered⟩
    rw [← pipelineOf_eq_layer] at gives
    simp only [resolve, one, place, more, gives]
    rfl

end Cli

end Stepwise
