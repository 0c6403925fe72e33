import Stepwise.Proofs.Cli.Arguments
import Stepwise.Proofs.Cli.Literal
import Stepwise.Proofs.Definition.Faults
import Stepwise.Proofs.Yaml.Faults

/-! Files that give no definition. A file is rejected with a reason that can be told, and the
commands tell it and end with the code that is theirs. What is not caught are octets that are no
text, scalars and escapes that the document cannot be made of, and numbers with too many digits;
these break the command down. -/
namespace Stepwise

theorem Value.legible_kind (v : Value) : Legible v.kind.toList := by
  unfold kind
  split <;> decide

namespace Definition

/-- What breaks the loading of a file down instead of having it rejected: a name that the system
cannot be given, octets that are no text, a scalar or an escape of the document that has no value, or
a number with too many digits. -/
inductive Breaks (w : World) (path : Path) : Fault → Prop where
  | name {f : Fault} (unusable : nameFault? path.toString = some f) : Breaks w path f
  | octets {bytes : List UInt8} {e : Text.Utf8.Error} (usable : nameFault? path.toString = none)
      (file : w.read path.toString = .ok bytes)
      (undecodable : Text.Utf8.decode bytes = .error e) : Breaks w path (.undecodable e)
  | document {bytes : List UInt8} {cs : List Char} {f : Fault}
      (usable : nameFault? path.toString = none) (file : w.read path.toString = .ok bytes)
      (text : Text.Utf8.decode bytes = .ok cs)
      (broken : Yaml.load (Text.unifyNewlines cs) = .error (.fault f))
      (valueless : Yaml.Valueless (Text.unifyNewlines cs) f) : Breaks w path f
  | number {bytes : List UInt8} {cs : List Char} {v : Value} {f : Fault}
      (usable : nameFault? path.toString = none) (file : w.read path.toString = .ok bytes)
      (text : Text.Utf8.decode bytes = .ok cs)
      (document : Yaml.load (Text.unifyNewlines cs) = .ok v)
      (broken : read v = .error (.fault f)) (long : Overlong v f) : Breaks w path f

variable {explain : Yaml.Explain}

theorem ofValue_eq_fault {path : Path} {v : Value} {f : Fault} :
    ofValue path v = .error (.fault f) ↔ read v = .error (.fault f) := by
  unfold ofValue
  split
  · split <;> simp_all
  · rename_i other
    have part : read v = Reading.complain (.noPart "PipelineDefinition") := by
      cases v <;> first | rfl | exact absurd rfl (other _)
    simp [part, Reading.complain]

theorem load_eq_fault {w : World} {path : Path} {f : Fault} :
    load explain w path = .error (.fault f) ↔ Breaks w path f := by
  constructor
  · intro broken
    unfold load at broken
    split at broken
    · rename_i unusable
      cases broken
      exact .name unusable
    · rename_i usable
      split at broken
      · cases broken
      · rename_i bytes file
        unfold ofBytes at broken
        split at broken
        · rename_i undecodable
          cases broken
          exact .octets usable file undecodable
        · rename_i cs text
          simp only at broken
          split at broken
          · cases broken
          · rename_i document
            cases broken
            exact .document usable file text document (Yaml.valueless_of_load document)
          · rename_i v document
            have reading := ofValue_eq_fault.mp broken
            exact .number usable file text document reading ((read_fails v).breaks f reading)
  · intro breaks
    cases breaks with
    | name unusable => simp [load, unusable]
    | octets usable file undecodable => simp [load, usable, file, ofBytes, undecodable]
    | document usable file text broken _ => simp [load, usable, file, ofBytes, text, broken]
    | number usable file text document broken _ =>
      simp only [load, usable, file, ofBytes, text, document]
      exact ofValue_eq_fault.mpr broken

theorem legible_of_rejected {w : World} {path : Path} {e : LoadError}
    (named : Legible path.toString.toList) (h : load explain w path = .error (.rejected e)) :
    Legible e.message.toList := by
  have told : ∀ {start between reason : String}, Legible start.toList → Legible between.toList →
      Legible reason.toList → Legible (start ++ path.toString ++ between ++ reason).toList :=
    fun first second third => ((first.string_append named).string_append second).string_append third
  have valued : ∀ v, ofValue path v = .error (.rejected e) → Legible e.message.toList := by
    intro v rejected
    unfold ofValue at rejected
    split at rejected
    · split at rejected
      · cases rejected
      · rename_i all complained
        cases rejected
        have report := Problem.legible_report ((read_fails _).complains all complained)
        exact told (.ofList (by decide)) (by decide) report
      · cases rejected
    · cases rejected
      exact told (.ofList (by decide)) (.ofList (by decide)) (Value.legible_kind v)
  unfold load at h
  split at h
  · cases h
  · split at h
    · rename_i error unreadable
      cases h
      exact told (by decide) (by decide) (Errno.legible_message _ _)
    · unfold ofBytes at h
      split at h
      · cases h
      · simp only at h
        split at h
        · cases h
          exact told (by decide) (by decide) (.of_hasLone (explain _).legible)
        · cases h
        · exact valued _ h

end Definition

namespace Cli

open Console (printed)
open Console.Markup (escape)

variable {σ : Type}

/-- A command that does nothing but say some words and a reason on lines of a width, and end with a
code. -/
structure Refuses (width : Nat) (o : Outcome σ) (words reason : String) (code : Int) (state : σ) :
    Prop where
  exit : o.exit = .code code
  told : Tells width words reason o.stdout
  trace : o.trace = []
  executor : o.executor = none
  state : o.state = state

theorem refuses_printing {width : Nat} {line : Except Fault String} {words reason text : String}
    (h : line = .ok text) (told : Tells width words reason text) (code : Int)
    (records : List LogRecord) (state : σ) :
    Refuses width (.printing [line] (.code code) records state) words reason code state := by
  subst h
  refine ⟨rfl, ?_, rfl, rfl, rfl⟩
  simpa [Outcome.printing, Console.printAll] using told

def invalidLine (width : Nat) (message : String) : Except Fault String :=
  printed width ("[red]Invalid:[/red] " ++ escape message)

theorem invalidLine_ok {message : String} (h : Legible message.toList) (width : Nat) :
    ∃ line, invalidLine width message = .ok line :=
  noticeLine_ok ["red".toList, "/red".toList] (fun _ => rfl) (by decide) (by decide) h width

theorem invalidLine_eq (width : Nat) (message : String) :
    invalidLine width message = Console.writable (said width "Invalid: " message) :=
  printed_red "Invalid:".toList rfl rfl (by decide) (by decide) (by decide +kernel)

theorem invalidLine_tells {width : Nat} {message line : String}
    (told : invalidLine width message = .ok line) : Tells width "Invalid: " message line :=
  tells_of_writable ((invalidLine_eq width message).symm.trans told)

theorem runCommand_rejected {host : Host σ} {around : Surroundings} {s : RunSettings} {state : σ}
    {message : String} {records : List LogRecord} (mode : (s.check && s.fix) = false)
    (h : resolve (host.world state) around s = (.rejected message, records)) :
    runCommand host around s state =
      .printing [errorLine around.width message] (.code exitUsage) records state := by
  simp only [runCommand, mode, h]
  rfl

theorem runCommand_fault {host : Host σ} {around : Surroundings} {s : RunSettings} {state : σ}
    {f : Fault} {records : List LogRecord} (mode : (s.check && s.fix) = false)
    (h : resolve (host.world state) around s = (.fault f, records)) :
    runCommand host around s state = .printing [] (.crashed f) records state := by
  simp only [runCommand, mode, h]
  rfl

theorem runCommand_of_dryRun {host : Host σ} {around : Surroundings} {s : RunSettings} {state : σ}
    {p : Pipeline} {records : List LogRecord} (mode : (s.check && s.fix) = false)
    (resolved : resolve (host.world state) around s = (.found p, records))
    (dry : s.dryRun = true) :
    runCommand host around s state =
      .printing (pipelineLines around.width p ++
          [printed around.width "\n[green]Pipeline definition is valid.[/green]"])
        (.code 0) records state := by
  simp [runCommand, mode, resolved, dry]

theorem validateCommand_rejected {host : Host σ} {around : Surroundings} {file : String}
    {state : σ} {e : LoadError}
    (h : Definition.load around.explain (host.world state) (Path.ofString file) =
      .error (.rejected e)) :
    validateCommand host around (some file) state =
      .printing [invalidLine around.width e.message] (.code 1) [] state := by
  unfold validateCommand
  simp only
  rw [h]
  rfl

theorem validateCommand_fault {host : Host σ} {around : Surroundings} {file : String} {state : σ}
    {f : Fault}
    (h : Definition.load around.explain (host.world state) (Path.ofString file) =
      .error (.fault f)) :
    validateCommand host around (some file) state = .printing [] (.crashed f) [] state := by
  unfold validateCommand
  simp only
  rw [h]
  rfl

theorem resolve_file (w : World) (around : Surroundings) {s : RunSettings} {file : String}
    (source : s.file = some file) (preset : s.preset = none) (env_file : s.envFile = none) :
    resolve w around s = (.ofDefinition (fun d => d.toPipeline s.mode ∅)
      (Definition.load around.explain w (Path.ofString file)), []) := by
  simp only [resolve, sourceFile, extraEnv, pipelineOf, source, preset, env_file]
  rfl

section Files

variable (host : Host σ) (around : Surroundings) (file : String) (state : σ)

theorem invoke_validate :
    (invoke host around ["validate", "-f", file] state).1 =
      withPaths [file] state (validateCommand host around (some file) state) := by
  have named : Reads options false ["validate", "-f", file] id ["validate", "-f", file] :=
    .command _ (by decide) (by decide) rfl
  have settings : Reads validateOptions true ["-f", file] (fun s => (some file, s.2)) [] :=
    .value (by decide) (by decide) rfl
  simp only [invoke, named.readArgs_eq]
  show command host around "validate" ["-f", file] state = _
  simp only [command, withSettings, settings.readArgs_eq]
  rfl

theorem invoke_validate_file (usable : nameFault? file = none) :
    (invoke host around ["validate", "-f", file] state).1 =
      validateCommand host around (some file) state := by
  rw [invoke_validate]
  simp [withPaths, usable]

theorem asks_file (usable : nameFault? file = none) :
    Asks ["run", "-f", file] false { RunSettings.default with file := some file } := by
  have settings : Reads RunSettings.options true ["-f", file]
      (fun s => { s with file := some file }) [] := .value (by decide) (by decide) rfl
  exact .intro (.command _ (by decide) (by decide) rfl) rfl settings rfl
    (by simpa [RunSettings.default, RunSettings.paths] using usable)

theorem invoke_run_file (usable : nameFault? file = none) :
    (invoke host around ["run", "-f", file] state).1 =
      runCommand host around { RunSettings.default with file := some file } state :=
  congrArg Prod.fst ((asks_file file usable).invoke_eq host around state)

/-- Loading a file comes to a definition or to a rejection, except where it breaks down in one of
four ways. A file that is rejected is told of: `validate` ends with code 1 and `run` with code 2,
and nothing is run. Where loading breaks down, so do both commands. -/
theorem load_told (usable : nameFault? file = none) :
    (∀ w path f, Definition.load around.explain w path = .error (.fault f) ↔
      Definition.Breaks w path f) ∧
    (∀ e, Definition.load around.explain (host.world state) (Path.ofString file) =
      .error (.rejected e) →
      Text.hasLone file = false →
      Refuses around.width (invoke host around ["validate", "-f", file] state).1 "Invalid: "
        e.message 1 state ∧
      Refuses around.width (invoke host around ["run", "-f", file] state).1 "Error: "
        e.message 2 state) ∧
    ∀ f, Definition.Breaks (host.world state) (Path.ofString file) f →
      (invoke host around ["validate", "-f", file] state).1.exit = .crashed f ∧
      (invoke host around ["run", "-f", file] state).1.exit = .crashed f := by
  refine ⟨fun w path f => Definition.load_eq_fault, ?_, ?_⟩
  · intro e rejected legible
    have message := Definition.legible_of_rejected
      (Path.legible_toString (Legible.of_hasLone legible)) rejected
    constructor
    · obtain ⟨line, told⟩ := invalidLine_ok message around.width
      rw [invoke_validate_file host around file state usable, validateCommand_rejected rejected]
      exact refuses_printing told (invalidLine_tells told) 1 [] state
    · obtain ⟨line, told⟩ := errorLine_ok message around.width
      rw [invoke_run_file host around file state usable]
      have resolved : resolve (host.world state) around
          { RunSettings.default with file := some file } = (.rejected e.message, []) := by
        rw [resolve_file _ _ rfl rfl rfl, rejected]
        rfl
      rw [runCommand_rejected rfl resolved]
      exact refuses_printing told (errorLine_tells told) 2 [] state
  · intro f breaks
    have broken : Definition.load around.explain (host.world state) (Path.ofString file) =
        .error (.fault f) := Definition.load_eq_fault.mpr breaks
    constructor
    · rw [invoke_validate_file host around file state usable, validateCommand_fault broken]
      rfl
    · rw [invoke_run_file host around file state usable]
      have resolved : resolve (host.world state) around
          { RunSettings.default with file := some file } = (.fault f, []) := by
        rw [resolve_file _ _ rfl rfl rfl, broken]
        rfl
      rw [runCommand_fault rfl resolved]
      rfl

end Files

def shelf : World := ⟨[(["work"], .directory), (["work", "b.yaml"], .file [0xff] false)], ["work"]⟩

def idle : Host World where
  executor _ := ⟨fun _ _ _ w => (.completed ⟨0, none, none, 0⟩, w), fun _ _ _ => [],
    fun _ _ => .ok 0⟩
  world := id
  setWorld w _ := w

theorem undecodable_ff : Text.Utf8.decode [0xff] = .error ⟨0, [0xff], .startByte⟩ := by
  unfold Text.Utf8.decode
  rw [Text.Utf8.decodeFrom]
  rfl

/-- A file that is not there is told of, and one whose octets are no text breaks the command down. -/
theorem load_told_shelf :
    Refuses 80 (invoke idle .bare ["run", "-f", "a.yaml"] shelf).1 "Error: "
      "Cannot read a.yaml: [Errno 2] No such file or directory: 'a.yaml'" 2 shelf ∧
    (invoke idle .bare ["validate", "-f", "b.yaml"] shelf).1.exit =
      .crashed (.undecodable ⟨0, [0xff], .startByte⟩) := by
  obtain ⟨-, told, -⟩ := load_told idle .bare "a.yaml" shelf (by decide)
  obtain ⟨-, -, broken⟩ := load_told idle .bare "b.yaml" shelf (by decide)
  have breaks : Definition.Breaks shelf (Path.ofString "b.yaml")
      (.undecodable ⟨0, [0xff], .startByte⟩) := .octets (by decide) rfl undecodable_ff
  exact ⟨(told (.unreadable (Path.ofString "a.yaml") .notFound) rfl (by decide)).2,
    (broken _ breaks).1⟩

end Cli

end Stepwise
