import Stepwise.Proofs.Cli.Command
import Stepwise.Proofs.Cli.Rejection
import Stepwise.Proofs.World.Writing

/-! What the command that runs pipelines does to the world. An executor is created if nothing stands
in the way of a run, and otherwise nothing is run and nothing is written. A reason that can be told is
told. What is written in a run, apart from what its commands do, is the report. -/
namespace Stepwise

theorem EnvFile.load_eq_rejected {w : World} {environ : Env} {path : Path} {e : ConfigurationError}
    (h : load w environ path = .error (.rejected e)) : e = .envFileMissing path := by
  unfold load at h
  split at h
  · cases h
    rfl
  · split at h
    · cases h
    · cases h
      rfl
    · split at h
      · cases h
      · split at h
        · cases h
        · cases h

namespace Cli

open Console (printed printAll)
open Course (calls stateAfter)

section Conditions

variable (w : World) (around : Surroundings) (s : RunSettings)

/-- The settings do not contradict themselves. -/
structure Consistent : Prop where
  mode : ¬ (s.check = true ∧ s.fix = true)
  source : ¬ (s.file.isSome = true ∧ s.preset.isSome = true)

/-- The variables of the file that is asked for can be had, or none is asked for. -/
def Extra : Prop :=
  ∀ file, s.envFile = some file →
    ∃ more, EnvFile.load w around.environ (Path.ofString file) = .ok more

/-- Nothing stands in the way of a run. -/
structure Ready : Prop where
  consistent : Consistent s
  extra : Extra w around s
  source : ∃ p, Source around.explain w s p
  executes : s.dryRun = false

/-- Why there is no pipeline to run, as far as that can be told. -/
inductive Rejected : String → Prop where
  | modes (both : s.check = true ∧ s.fix = true) :
      Rejected "--check and --fix are mutually exclusive"
  | sources (mode : ¬ (s.check = true ∧ s.fix = true))
      (both : s.file.isSome = true ∧ s.preset.isSome = true) :
      Rejected "--file and --preset are mutually exclusive"
  | envFile {file : String} {found : Option Path} {e : ConfigurationError}
      (consistent : Consistent s) (place : sourceFile w s = .ok found) (asked : s.envFile = some file)
      (failed : EnvFile.load w around.environ (Path.ofString file) = .error (.rejected e)) :
      Rejected e.message
  | definition {path : Path} {e : LoadError} (consistent : Consistent s)
      (place : sourceFile w s = .ok (some path)) (extra : Extra w around s)
      (failed : Definition.load around.explain w path = .error (.rejected e)) : Rejected e.message
  | preset {e : ConfigurationError} (consistent : Consistent s)
      (place : sourceFile w s = .ok none) (extra : Extra w around s)
      (failed : Preset.build (presetName s) (s.mode.getD .fix) = .error e) : Rejected e.message

/-- The names that reasons are told with have octets. -/
structure Nameable : Prop where
  file : ∀ file, s.file = some file → Legible file.toList
  preset : ∀ name, s.preset = some name → Legible name.toList
  envFile : ∀ file, s.envFile = some file → Legible file.toList
  home : ∀ name ∈ w.home, Legible name.toList

end Conditions

section Resolving

variable {w : World} {around : Surroundings} {s : RunSettings}

theorem extra_iff : Extra w around s ↔ ∃ more, extraEnv w around.environ s = .ok more := by
  unfold Extra extraEnv
  cases s.envFile with
  | none => simp
  | some file => simp

theorem mode_of_consistent (h : Consistent s) : (s.check && s.fix) = false := by
  simpa using h.mode

theorem source_of_consistent (h : Consistent s) : (s.file.isSome && s.preset.isSome) = false := by
  simpa using h.source

theorem extraEnv_eq_rejected {e : ConfigurationError} :
    extraEnv w around.environ s = .error (.rejected e) ↔ ∃ file, s.envFile = some file ∧
      EnvFile.load w around.environ (Path.ofString file) = .error (.rejected e) := by
  unfold extraEnv
  cases s.envFile with
  | none => simp
  | some file => simp

theorem ofConfiguration_eq_rejected {r : Except ConfigurationError Pipeline} {message : String} :
    Resolution.ofConfiguration r = .rejected message ↔ ∃ e, r = .error e ∧ message = e.message := by
  cases r with
  | ok p => simp [Resolution.ofConfiguration]
  | error e => simp [Resolution.ofConfiguration, eq_comm]

theorem layer_eq_rejected {r : Resolution} {extra : Env} {message : String} :
    r.layer extra = .rejected message ↔ r = .rejected message := by
  cases r with
  | found p => simp [Resolution.layer]
  | rejected other => rfl
  | fault f => rfl

theorem pipelineOf_file_eq_rejected {path : Path} {extra : Env} {message : String} :
    pipelineOf around.explain w s (some path) extra = .rejected message ↔
      ∃ e, Definition.load around.explain w path = .error (.rejected e) ∧ message = e.message := by
  cases loaded : Definition.load around.explain w path with
  | ok d =>
    simp [pipelineOf, loaded, Resolution.ofDefinition, d.toPipeline_eq_built,
      Resolution.ofConfiguration]
  | error e => cases e <;> simp [pipelineOf, loaded, Resolution.ofDefinition, eq_comm]

theorem pipelineOf_preset_eq_rejected {extra : Env} {message : String} :
    pipelineOf around.explain w s none extra = .rejected message ↔
      ∃ e, Preset.build (presetName s) (s.mode.getD .fix) = .error e ∧ message = e.message := by
  rw [pipelineOf, layer_eq_rejected, ofConfiguration_eq_rejected]

theorem resolve_of_rejected {message : String} (mode : ¬ (s.check = true ∧ s.fix = true))
    (h : Rejected w around s message) :
    ∃ records, resolve w around s = (.rejected message, records) := by
  cases h with
  | modes both => exact absurd both mode
  | sources _ both =>
    refine ⟨[], ?_⟩
    simp [resolve, both]
  | envFile consistent place asked failed =>
    have more := extraEnv_eq_rejected.mpr ⟨_, asked, failed⟩
    refine ⟨[], ?_⟩
    simp only [resolve, source_of_consistent consistent, place, more]
    rfl
  | @definition path e consistent place extra failed =>
    obtain ⟨more, had⟩ := extra_iff.mp extra
    have gives : pipelineOf around.explain w s (some path) more.1 = .rejected e.message :=
      pipelineOf_file_eq_rejected.mpr ⟨e, failed, rfl⟩
    refine ⟨more.2, ?_⟩
    simp only [resolve, source_of_consistent consistent, place, had, gives]
    rfl
  | @preset e consistent place extra failed =>
    obtain ⟨more, had⟩ := extra_iff.mp extra
    have gives : pipelineOf around.explain w s none more.1 = .rejected e.message :=
      pipelineOf_preset_eq_rejected.mpr ⟨e, failed, rfl⟩
    refine ⟨more.2, ?_⟩
    simp only [resolve, source_of_consistent consistent, place, had, gives]
    rfl

theorem rejected_of_resolve {message : String} {records : List LogRecord}
    (mode : ¬ (s.check = true ∧ s.fix = true))
    (h : resolve w around s = (.rejected message, records)) : Rejected w around s message := by
  unfold resolve at h
  split at h
  · rename_i both
    cases h
    exact .sources mode (by simpa using both)
  · rename_i one
    have consistent : Consistent s := ⟨mode, by simpa using one⟩
    split at h
    · cases h
    · rename_i found place
      split at h
      · rename_i e failed
        cases h
        obtain ⟨file, asked, failed⟩ := extraEnv_eq_rejected.mp failed
        exact .envFile consistent place asked failed
      · cases h
      · rename_i extra logged had
        have more : Extra w around s := extra_iff.mpr ⟨_, had⟩
        obtain ⟨gives, -⟩ := Prod.mk.inj h
        cases found with
        | some path =>
          obtain ⟨e, failed, rfl⟩ := pipelineOf_file_eq_rejected.mp gives
          exact .definition consistent place more failed
        | none =>
          obtain ⟨e, failed, rfl⟩ := pipelineOf_preset_eq_rejected.mp gives
          exact .preset consistent place more failed

theorem ready_iff : Ready w around s ↔ (s.check && s.fix) = false ∧ s.dryRun = false ∧
    ∃ p records, resolve w around s = (.found p, records) := by
  constructor
  · rintro ⟨consistent, extra, ⟨own, source⟩, executes⟩
    obtain ⟨⟨more, records⟩, had⟩ := extra_iff.mp extra
    have resolved : resolve w around s = (.found (own.withEnv (own.env.update more)), records) :=
      resolve_eq_found.mpr ⟨source_of_consistent consistent, own, more, had, source, rfl⟩
    exact ⟨mode_of_consistent consistent, executes, _, records, resolved⟩
  · rintro ⟨mode, executes, p, records, resolved⟩
    obtain ⟨one, own, more, had, source, -⟩ := resolve_eq_found.mp resolved
    exact ⟨⟨by simpa using mode, by simpa using one⟩, extra_iff.mpr ⟨_, had⟩, ⟨own, source⟩, executes⟩

theorem Ready.found (ready : Ready w around s) {r : Resolution} {records : List LogRecord}
    (resolved : resolve w around s = (r, records)) : ∃ p, r = .found p := by
  obtain ⟨-, -, p, _, gives⟩ := ready_iff.mp ready
  exact ⟨p, congrArg Prod.fst (resolved.symm.trans gives)⟩

end Resolving

section Telling

variable {w : World} {around : Surroundings} {s : RunSettings}

theorem legible_firstFile {names : List String} {path : Path}
    (home : ∀ name ∈ w.home, Legible name.toList) (each : ∀ name ∈ names, Legible name.toList)
    (there : Pipeline.FirstFile w (here w) names path) : Legible path.toString.toList := by
  induction there with
  | @here name names is =>
    apply Path.legible_of_parts
    intro part member
    have file : ∀ part ∈ (Path.ofString name).parts, Legible part.toList := fun part inside =>
      Path.legible_part (each name List.mem_cons_self) inside
    show Legible part.toList
    by_cases absolute : (Path.ofString name).isAbsolute
    · rw [Path.join_of_isAbsolute absolute] at member
      exact file part member
    · have below : (here w / Path.ofString name).parts = w.home ++ (Path.ofString name).parts := by
        show (Path.join _ _).parts = _
        simp [Path.join, absolute, here]
      rw [below] at member
      rcases List.mem_append.mp member with above | inside
      · exact home part above
      · exact file part inside
  | later other rest ih => exact ih fun name member => each name (List.mem_cons_of_mem _ member)

theorem legible_sourceFile (nameable : Nameable w s) {path : Path}
    (place : sourceFile w s = .ok (some path)) : Legible path.toString.toList := by
  unfold sourceFile at place
  cases asked : s.file with
  | some file =>
    simp only [asked, Except.ok.injEq, Option.some.injEq] at place
    exact place ▸ Path.legible_toString (nameable.file file asked)
  | none =>
    cases named : s.preset with
    | some name => simp [asked, named] at place
    | none =>
      simp only [asked, named] at place
      exact legible_firstFile nameable.home (by decide) (Pipeline.findFile_eq_some.mp place)

theorem Rejected.legible (nameable : Nameable w s) {message : String}
    (h : Rejected w around s message) : Legible message.toList := by
  cases h with
  | modes both => decide
  | sources mode both => decide
  | envFile consistent place asked failed =>
    cases EnvFile.load_eq_rejected failed
    exact Legible.string_append (by decide) (Path.legible_toString (nameable.envFile _ asked))
  | definition consistent place extra failed =>
    exact Definition.legible_of_rejected (legible_sourceFile nameable place) failed
  | preset consistent place extra failed =>
    have name : Legible (presetName s).toList := by
      unfold presetName
      split
      · rename_i name asked
        split
        · decide
        · exact nameable.preset name asked
      · decide
    unfold Preset.build at failed
    split at failed
    · cases failed
    · cases failed
      exact ((Legible.string_append (by decide) name).string_append (by decide)).string_append
        (by decide)

end Telling

section Command

variable {σ : Type} {host : Host σ} {around : Surroundings} {s : RunSettings} {state : σ}

theorem exportReport_wrote (width : Nat) (w : World) (summary : Summary) (path : Path) :
    (exportReport width w summary path).1 = w ∨
      ∃ bytes place, w.Wrote path.toString bytes place (exportReport width w summary path).1 := by
  unfold exportReport
  simp only
  split
  · exact .inl rfl
  · split
    · exact .inl rfl
    · rename_i written _
      obtain ⟨place, wrote⟩ := World.wrote_of_write written
      exact .inr ⟨_, place, wrote⟩
    · rename_i written _
      obtain ⟨place, wrote⟩ := World.wrote_of_write written
      exact .inr ⟨_, place, wrote⟩

/-- A tree of files is as it was, apart from the report that is asked for. -/
def OnlyReport (s : RunSettings) (w w' : World) : Prop :=
  ∃ path, s.report = some path ∧
    (w' = w ∨ ∃ bytes place, w.Wrote (Path.ofString path).toString bytes place w')

theorem Reporting.onlyReport {width : Nat} {after : σ} (h : Reporting host width s state after) :
    after = state ∨ ∃ w, after = host.setWorld w state ∧ OnlyReport s (host.world state) w := by
  cases h with
  | nothing => exact .inl rfl
  | report asked summary =>
    exact .inr ⟨_, rfl, _, asked, exportReport_wrote _ _ summary _⟩

/-- The effects of a command that is asked to run a pipeline. -/
structure Effects (host : Host σ) (around : Surroundings) (s : RunSettings) (state : σ)
    (o : Outcome σ) : Prop where
  created : o.executor = some s.capture ↔ Ready (host.world state) around s
  silent : ¬ Ready (host.world state) around s →
    o.executor = none ∧ o.trace = [] ∧ o.state = state
  told : ∀ message, Rejected (host.world state) around s message →
    Nameable (host.world state) s → Refuses around.width o "Error: " message 2 state
  /-- A reason with a name in it that cannot be written breaks the command down. -/
  untold : ∀ message e, Rejected (host.world state) around s message →
    Text.Utf8.encodeError? (said around.width "Error: " message).toList = some e →
    o.exit = .crashed (.unprintable e)
  listed : ∀ own extra records, Consistent s →
    extraEnv (host.world state) around.environ s = .ok (extra, records) →
    Source around.explain (host.world state) s own → s.dryRun = true →
    (∀ line ∈ pipelineLines around.width (own.withEnv (own.env.update extra)),
      ∃ text, line = .ok text) →
    o.exit = .code 0
  ways : ¬ Ready (host.world state) around s →
    (∃ message, Rejected (host.world state) around s message) ∨
    (s.dryRun = true ∧ ∃ p, Source around.explain (host.world state) s p) ∨
    ∃ f, o.exit = .crashed f ∧ o.stdout = ""
  written : ∃ after, after = stateAfter (host.executor s.capture) (calls o.trace) state ∧
    (o.state = after ∨ ∃ w, o.state = host.setWorld w after ∧ OnlyReport s (host.world after) w)

/-- Only the last of the ways creates an executor, and it is taken if nothing stands in the way. -/
theorem Way.creates {o : Outcome σ} (way : Way host around s state o) :
    (o.executor = some s.capture ∧ Ready (host.world state) around s) ∨
      (o.executor = none ∧ o.trace = [] ∧ o.state = state) ∧
        ¬ Ready (host.world state) around s := by
  cases way with
  | modes both =>
    refine .inr ⟨Outcome.printing_silent .., fun ready => ?_⟩
    rw [(ready_iff.mp ready).1] at both
    cases both
  | rejected one resolved =>
    refine .inr ⟨Outcome.printing_silent .., fun ready => ?_⟩
    obtain ⟨p, found⟩ := ready.found resolved
    cases found
  | broken one resolved =>
    refine .inr ⟨Outcome.printing_silent .., fun ready => ?_⟩
    obtain ⟨p, found⟩ := ready.found resolved
    cases found
  | listed one resolved dry =>
    refine .inr ⟨Outcome.printing_silent .., fun ready => ?_⟩
    rw [ready.executes] at dry
    cases dry
  | run one resolved executes =>
    exact .inl ⟨execute_executor .., ready_iff.mpr ⟨one, executes, _, _, resolved⟩⟩

theorem Way.not_ready {o : Outcome σ} (way : Way host around s state o)
    (unready : ¬ Ready (host.world state) around s) :
    (∃ message, Rejected (host.world state) around s message) ∨
      (s.dryRun = true ∧ ∃ p, Source around.explain (host.world state) s p) ∨
        ∃ f, o.exit = .crashed f ∧ o.stdout = "" := by
  cases way with
  | modes both => exact .inl ⟨_, .modes (by simpa using both)⟩
  | rejected one resolved => exact .inl ⟨_, rejected_of_resolve (by simpa using one) resolved⟩
  | broken one resolved => exact .inr (.inr ⟨_, rfl, rfl⟩)
  | listed one resolved dry =>
    obtain ⟨-, own, -, -, source, -⟩ := resolve_eq_found.mp resolved
    exact .inr (.inl ⟨dry, own, source⟩)
  | run one resolved executes =>
    exact absurd (ready_iff.mpr ⟨one, executes, _, _, resolved⟩) unready

theorem Way.written {o : Outcome σ} (way : Way host around s state o) :
    let after := stateAfter (host.executor s.capture) (calls o.trace) state
    o.state = after ∨ ∃ w, o.state = host.setWorld w after ∧ OnlyReport s (host.world after) w := by
  rcases way.creates with ⟨created, -⟩ | ⟨⟨-, trace, kept⟩, -⟩
  · cases way with
    | run one resolved executes => exact (execute_reporting ..).onlyReport
    | modes both => cases created
    | rejected one resolved => cases created
    | broken one resolved => cases created
    | listed one resolved dry => cases created
  · intro after
    have same : after = state := by simp only [after, trace]; rfl
    exact .inl (kept.trans same.symm)

theorem runCommand_of_rejected {message : String}
    (h : Rejected (host.world state) around s message) :
    ∃ records, runCommand host around s state =
      .printing [errorLine around.width message] (.code exitUsage) records state := by
  by_cases both : s.check = true ∧ s.fix = true
  · cases h with
    | modes _ =>
      refine ⟨[], ?_⟩
      simp only [runCommand, both, Bool.and_self, if_true]
    | sources mode _ => exact absurd both mode
    | envFile consistent place asked failed => exact absurd both consistent.mode
    | definition consistent place extra failed => exact absurd both consistent.mode
    | preset consistent place extra failed => exact absurd both consistent.mode
  · obtain ⟨records, resolved⟩ := resolve_of_rejected both h
    exact ⟨records, runCommand_rejected (by simpa using both) resolved⟩

/-- A command that is asked to run a pipeline creates an executor exactly if the settings agree with
themselves, the variables and the pipeline that they ask for can be had and the steps are not only to
be listed. Otherwise it hands no command over and leaves the state as it is; it tells the reason and
ends with code 2 where there is one that can be written, and ends well where the steps are listed.
When it runs the pipeline, the state is changed by the commands, and then by nothing but the report. -/
theorem run_effects (host : Host σ) (around : Surroundings) (state : σ) {args : List String}
    {verbose : Bool} (asks : Asks args verbose s) :
    Effects host around s state (invoke host around args state).1 := by
  rw [asks.invoke_eq]
  have way := runCommand_way host around s state
  constructor
  case created =>
    rcases way.creates with ⟨created, ready⟩ | ⟨⟨none, -⟩, unready⟩
    · simp [created, ready]
    · simp [none, unready]
  case silent =>
    intro unready
    rcases way.creates with ⟨-, ready⟩ | ⟨silent, -⟩
    · exact absurd ready unready
    · exact silent
  case told =>
    intro message rejected nameable
    obtain ⟨line, printed⟩ := errorLine_ok (rejected.legible nameable) around.width
    obtain ⟨records, prints⟩ := runCommand_of_rejected rejected
    simp only [prints]
    exact refuses_printing printed (errorLine_tells printed) exitUsage records state
  case untold =>
    intro message e rejected unwritten
    obtain ⟨records, prints⟩ := runCommand_of_rejected rejected
    simp only [prints, errorLine_eq, Console.writable, unwritten]
    rfl
  case listed =>
    intro own extra records consistent had source dry displayable
    have resolved : resolve (host.world state) around s =
        (.found (own.withEnv (own.env.update extra)), records) :=
      resolve_eq_found.mpr ⟨source_of_consistent consistent, own, extra, had, source, rfl⟩
    have verdict : ∃ text, printed around.width
        "\n[green]Pipeline definition is valid.[/green]" = .ok text :=
      Console.printed_of_legible (.ofList (by decide)) rfl around.width
    obtain ⟨text, all⟩ := printAll_ok (List.forall_mem_append.mpr
      ⟨displayable, List.forall_mem_singleton.mpr verdict⟩)
    rw [runCommand_of_dryRun (mode_of_consistent consistent) resolved dry]
    simp only [Outcome.printing, all]
  case ways => exact fun unready => way.not_ready unready
  case written => exact ⟨_, rfl, way.written⟩

end Command

section Shelf

theorem asks_preset (name : String) :
    Asks ["run", "--preset", name] false { RunSettings.default with preset := some name } := by
  have preset : Reads RunSettings.options true ["--preset", name]
      (fun s => { s with preset := some name }) [] := .value (by decide) (by decide) rfl
  exact .intro (.command _ (by decide) (by decide) rfl) rfl preset rfl nofun

theorem asks_report : Asks ["run", "--report", "r.md", "-f", "a.yaml"] false
    { RunSettings.default with file := some "a.yaml", report := some "r.md" } := by
  have file : Reads RunSettings.options true ["-f", "a.yaml"]
      (fun s => { s with file := some "a.yaml" }) [] := .value (by decide) (by decide) rfl
  have report : Reads RunSettings.options true ["--report", "r.md", "-f", "a.yaml"] _ [] :=
    .option (by decide) (by decide) rfl file
  exact .intro (.command _ (by decide) (by decide) rfl) rfl report rfl (by decide)

def unwritable : String := .ofList [Text.ofCode 0xdcff]

/-- Where a file is missing, that is told and no report is written. The built-in pipeline is run, but
a name that cannot be written breaks the command down. -/
theorem run_effects_shelf :
    Refuses 80 (invoke idle .bare ["run", "--report", "r.md", "-f", "a.yaml"] shelf).1 "Error: "
      "Cannot read a.yaml: [Errno 2] No such file or directory: 'a.yaml'" 2 shelf ∧
    (invoke idle .bare ["run", "--preset", "rust"] shelf).1.executor = some false ∧
    (invoke idle .bare ["run", "--preset", unwritable] shelf).1.exit =
      .crashed (.unprintable ⟨23, [0xdcff]⟩) := by
  have missing := run_effects idle .bare shelf asks_report
  have built := run_effects idle .bare shelf (asks_preset "rust")
  have broken := run_effects idle .bare shelf (asks_preset unwritable)
  refine ⟨?_, ?_, ?_⟩
  · apply missing.told (LoadError.unreadable (Path.ofString "a.yaml") .notFound).message
    · exact .definition ⟨by decide, by decide⟩ rfl nofun rfl
    · constructor
      case file =>
        rintro file ⟨⟩
        decide
      case preset => exact nofun
      case envFile => exact nofun
      case home => decide
  · exact built.created.mpr ⟨⟨by decide, by decide⟩, nofun, ⟨_, .named rfl rfl rfl⟩, rfl⟩
  · have unknown : Preset.build unwritable .fix = .error (.unknownPreset unwritable ["rust"]) := rfl
    have untold : Text.Utf8.encodeError? (said 80 "Error: "
        (ConfigurationError.unknownPreset unwritable ["rust"]).message).toList =
        some ⟨23, [0xdcff]⟩ := by decide +kernel
    exact broken.untold _ _ (.preset ⟨by decide, by decide⟩ rfl nofun unknown) untold

end Shelf

end Cli

end Stepwise
