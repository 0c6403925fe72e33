import Stepwise.Proofs.Cli.Listing

/-! A file is checked by `validate` and by a dry run, each in its own way. Both list the same
pipeline, tell the same reason why there is none, break down with the same fault or refuse the name
of the file. They part only where a reason is told that cannot be written: then it depends on how the
line is laid out whether what has no octets is on it. -/
namespace Stepwise.Cli

open Console (printed printAll)

variable {σ : Type}

section Printing

theorem printAll_append (lines more : List (Except Fault String)) :
    printAll (lines ++ more) = match printAll lines with
      | (text, some f) => (text, some f)
      | (text, none) => (text ++ (printAll more).1, (printAll more).2) := by
  induction lines with
  | nil => simp [printAll]
  | cons line lines ih =>
    cases line with
    | error f => rfl
    | ok text =>
      rw [List.cons_append, printAll, ih, printAll]
      rcases printAll lines with ⟨rest, _ | f⟩
      · simp [String.append_assoc]
      · rfl

/-- A verdict after some lines is printed after them, unless one of them breaks the command down. -/
theorem printing_verdict {width : Nat} {markup verdict : String}
    (told : printed width markup = .ok verdict) (lines : List (Except Fault String)) (exit : Exit)
    (records : List LogRecord) (state : σ) :
    Outcome.printing (lines ++ [printed width markup]) exit records state =
      match printAll lines with
      | (text, some f) => ⟨text, records, none, [], .crashed f, state⟩
      | (text, none) => ⟨text ++ verdict, records, none, [], exit, state⟩ := by
  unfold Outcome.printing
  rw [printAll_append, told]
  rcases printAll lines with ⟨text, _ | f⟩
  · simp [printAll]
  · rfl

end Printing

section Asking

variable (host : Host σ) (around : Surroundings) (file : String) (state : σ)

def drySettings (file : String) : RunSettings :=
  { RunSettings.default with file := some file, dryRun := true }

theorem invoke_dryRun :
    (invoke host around ["run", "-f", file, "--dry-run"] state).1 =
      withPaths [file] state (runCommand host around (drySettings file) state) := by
  have named : Reads options false ["run", "-f", file, "--dry-run"] id
      ["run", "-f", file, "--dry-run"] := .command _ (by decide) (by decide) rfl
  simp only [invoke, named.readArgs_eq]
  show command host around "run" ["-f", file, "--dry-run"] state = _
  simp only [command, withSettings, (reads_dryRun file).readArgs_eq]
  rfl

end Asking

/-- What checking a file and trying to run it come to where they agree. -/
inductive Concur (around : Surroundings) (w : World) (file : String) (checked tried : Outcome σ) :
    Prop where
  | valid (p : Pipeline) (listing last last' : String)
      (checks : Checks around.explain w (some file) p)
      (listed : printAll (pipelineLines around.width p) = (listing, none))
      (exits : checked.exit = .code 0 ∧ tried.exit = .code 0)
      (verdicts : Tells around.width "Valid" "" last ∧
        Tells around.width "\nPipeline definition is valid." "" last')
      (stdout : checked.stdout = listing ++ last ∧ tried.stdout = listing ++ last')
  | invalid (e : LoadError)
      (rejected : Definition.load around.explain w (Path.ofString file) = .error (.rejected e))
      (exits : checked.exit = .code 1 ∧ tried.exit = .code 2)
      (stdout : Tells around.width "Invalid: " e.message checked.stdout ∧
        Tells around.width "Error: " e.message tried.stdout)
  | broken (f : Fault) (exits : checked.exit = .crashed f ∧ tried.exit = .crashed f)
  | misused (e : UsageError) (exits : checked.exit = .usage e ∧ tried.exit = .usage e)

section Agreement

variable (host : Host σ) (around : Surroundings) (file : String) (state : σ)

theorem concur_of_loaded {d : Definition}
    (loaded : Definition.load around.explain (host.world state) (Path.ofString file) = .ok d) :
    Concur around (host.world state) file (validateCommand host around (some file) state)
      (runCommand host around (drySettings file) state) := by
  have checks := checks_of_loaded loaded
  have resolved : resolve (host.world state) around (drySettings file) =
      (.found (d.built d.spec.formatMode ∅), []) := checks.resolve_eq rfl rfl rfl rfl
  obtain ⟨last, told, tells⟩ := valid_tells around.width
  obtain ⟨last', told', tells'⟩ := definition_valid_tells around.width
  rw [checks.validateCommand_eq, runCommand_of_dryRun rfl resolved rfl,
    printing_verdict told, printing_verdict told']
  rcases listed : printAll (pipelineLines around.width (d.built d.spec.formatMode ∅)) with
    ⟨listing, _ | f⟩
  · exact .valid _ listing last last' checks listed ⟨rfl, rfl⟩ ⟨tells, tells'⟩ ⟨rfl, rfl⟩
  · exact .broken f ⟨rfl, rfl⟩

theorem concur_of_rejected {e : LoadError} (legible : Legible e.message.toList)
    (rejected : Definition.load around.explain (host.world state) (Path.ofString file) =
      .error (.rejected e)) :
    Concur around (host.world state) file (validateCommand host around (some file) state)
      (runCommand host around (drySettings file) state) := by
  have resolved : resolve (host.world state) around (drySettings file) =
      (.rejected e.message, []) := by
    rw [resolve_file _ _ rfl rfl rfl, rejected]
    rfl
  obtain ⟨invalid, told⟩ := invalidLine_ok legible around.width
  obtain ⟨error, told'⟩ := errorLine_ok legible around.width
  rw [validateCommand_rejected rejected, runCommand_rejected rfl resolved]
  have first := refuses_printing told (invalidLine_tells told) 1 [] state
  have second := refuses_printing told' (errorLine_tells told') exitUsage [] state
  exact .invalid e rejected ⟨first.exit, second.exit⟩ ⟨first.told, second.told⟩

theorem concur_of_fault {f : Fault}
    (broken : Definition.load around.explain (host.world state) (Path.ofString file) =
      .error (.fault f)) :
    Concur around (host.world state) file (validateCommand host around (some file) state)
      (runCommand host around (drySettings file) state) := by
  have resolved : resolve (host.world state) around (drySettings file) =
      (.fault f, []) := by
    rw [resolve_file _ _ rfl rfl rfl, broken]
    rfl
  rw [validateCommand_fault broken, runCommand_fault rfl resolved]
  exact .broken f ⟨rfl, rfl⟩

theorem concur
    (octets : ∀ e, Definition.load around.explain (host.world state) (Path.ofString file) =
      .error (.rejected e) → Text.hasLone file = false) :
    Concur around (host.world state) file (invoke host around ["validate", "-f", file] state).1
      (invoke host around ["run", "-f", file, "--dry-run"] state).1 := by
  rw [invoke_validate, invoke_dryRun]
  unfold withPaths
  split
  · exact .misused _ ⟨rfl, rfl⟩
  · cases loaded : Definition.load around.explain (host.world state) (Path.ofString file) with
    | ok d => exact concur_of_loaded host around file state loaded
    | error failure =>
      cases failure with
      | fault f => exact concur_of_fault host around file state loaded
      | rejected e =>
        have named := Path.legible_toString (Legible.of_hasLone (octets e loaded))
        have message := Definition.legible_of_rejected named loaded
        exact concur_of_rejected host around file state message loaded

/-- `validate` and a dry run of a file agree, if the file has a name with octets or is not rejected.
Both end well, after the same table and the same variables; or both tell the same reason, each with
its code; or both break down with the same fault. -/
theorem validate_dryRun_agree
    (octets : ∀ e, Definition.load around.explain (host.world state) (Path.ofString file) =
      .error (.rejected e) → Text.hasLone file = false) :
    let checked := (invoke host around ["validate", "-f", file] state).1
    let tried := (invoke host around ["run", "-f", file, "--dry-run"] state).1
    (checked.exit = .code 0 ↔ tried.exit = .code 0) ∧
    (checked.exit = .code 0 → ∃ p listing last last',
      Checks around.explain (host.world state) (some file) p ∧
      printAll (pipelineLines around.width p) = (listing, none) ∧
      Tells around.width "Valid" "" last ∧
      Tells around.width "\nPipeline definition is valid." "" last' ∧
      checked.stdout = listing ++ last ∧ tried.stdout = listing ++ last') ∧
    (checked.exit = .code 1 ↔ tried.exit = .code 2) ∧
    (checked.exit = .code 1 → ∃ e,
      Definition.load around.explain (host.world state) (Path.ofString file) = .error (.rejected e) ∧
      Tells around.width "Invalid: " e.message checked.stdout ∧
      Tells around.width "Error: " e.message tried.stdout) ∧
    ∀ f, checked.exit = .crashed f ↔ tried.exit = .crashed f := by
  intro checked tried
  have agree : Concur around (host.world state) file checked tried :=
    concur host around file state octets
  clear_value checked tried
  cases agree with
  | valid p listing last last' checks listed exits verdicts stdout =>
    rw [exits.1, exits.2]
    exact ⟨.rfl, fun _ => ⟨p, listing, last, last', checks, listed, verdicts.1, verdicts.2, stdout⟩,
      ⟨nofun, nofun⟩, nofun, fun f => ⟨nofun, nofun⟩⟩
  | invalid e rejected exits stdout =>
    rw [exits.1, exits.2]
    exact ⟨⟨nofun, nofun⟩, nofun, ⟨fun _ => rfl, fun _ => rfl⟩, fun _ => ⟨e, rejected, stdout⟩,
      fun f => ⟨nofun, nofun⟩⟩
  | broken f exits =>
    rw [exits.1, exits.2]
    exact ⟨⟨nofun, nofun⟩, nofun, ⟨nofun, nofun⟩, nofun, fun _ => .rfl⟩
  | misused e exits =>
    rw [exits.1, exits.2]
    exact ⟨⟨nofun, nofun⟩, nofun, ⟨nofun, nofun⟩, nofun, fun f => ⟨nofun, nofun⟩⟩

end Agreement

/-- Selectors after digits and separators make a line wider than its words are together. So the last
word, which has no octets, is cut from one line and stands on another one. -/
example :
    let reason := ['a', ' ', '5', '\x1c', '\ufe0f', '5', '\x1c', '\ufe0f', Text.ofCode 0xdcff]
    (∀ line ∈ Console.wrap .fold .natural 5 reason, Legible line) ∧
      ¬ ∀ line ∈ Console.wrap .fold .natural 7 reason, Legible line := by
  decide +kernel

/-- A file that is not there is told of by both, and one whose octets are no text breaks both down. -/
theorem validate_dryRun_agree_shelf :
    let checked := (invoke idle .bare ["validate", "-f", "a.yaml"] shelf).1
    let tried := (invoke idle .bare ["run", "-f", "a.yaml", "--dry-run"] shelf).1
    (checked.exit = .code 1 ∧ tried.exit = .code 2 ∧
      checked.stdout =
        "Invalid: Cannot read a.yaml: [Errno 2] No such file or directory: 'a.yaml'\n" ∧
      tried.stdout =
        "Error: Cannot read a.yaml: [Errno 2] No such file or directory: 'a.yaml'\n") ∧
    (invoke idle .bare ["run", "-f", "b.yaml", "--dry-run"] shelf).1.exit =
      .crashed (.undecodable ⟨0, [0xff], .startByte⟩) := by
  have octets : ∀ file, Text.hasLone file = false → ∀ e,
      Definition.load Surroundings.bare.explain shelf (Path.ofString file) = .error (.rejected e) →
      Text.hasLone file = false := fun file legible _ _ => legible
  obtain ⟨-, -, codes, told, -⟩ := validate_dryRun_agree idle .bare "a.yaml" shelf
    (octets "a.yaml" (by decide))
  obtain ⟨-, -, -, -, faults⟩ := validate_dryRun_agree idle .bare "b.yaml" shelf
    (octets "b.yaml" (by decide))
  have missing : Definition.load Surroundings.bare.explain shelf (Path.ofString "a.yaml") =
      .error (.rejected (.unreadable (Path.ofString "a.yaml") .notFound)) := rfl
  have ends : (invoke idle .bare ["validate", "-f", "a.yaml"] shelf).1.exit = .code 1 := by
    obtain ⟨line, printed⟩ := invalidLine_ok (Definition.legible_of_rejected
      (Path.legible_toString (Legible.of_hasLone (by decide))) missing) 80
    rw [invoke_validate_file _ _ _ _ (by decide), validateCommand_rejected missing]
    exact (refuses_printing printed (invalidLine_tells printed) 1 [] shelf).exit
  have breaks : Definition.load Surroundings.bare.explain shelf (Path.ofString "b.yaml") =
      .error (.fault (.undecodable ⟨0, [0xff], .startByte⟩)) :=
    Definition.load_eq_fault.mpr (.octets (by decide) rfl undecodable_ff)
  obtain ⟨e, rejected, said, said'⟩ := told ends
  obtain rfl : LoadError.unreadable (Path.ofString "a.yaml") .notFound = e := by
    simpa using missing.symm.trans rejected
  refine ⟨⟨ends, codes.mp ends, ?_, ?_⟩, (faults _).mp ?_⟩
  · exact (said.literal (by decide +kernel) (by decide +kernel)).trans (by decide +kernel)
  · exact (said'.literal (by decide +kernel) (by decide +kernel)).trans (by decide +kernel)
  · rw [invoke_validate_file _ _ _ _ (by decide), validateCommand_fault breaks]
    rfl

end Stepwise.Cli
