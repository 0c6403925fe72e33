import Stepwise.Definition.Basic
import Stepwise.Definition.Problem
import Stepwise.Fault

/-!
Reading definitions from values. Every part is read on its own and all problems are kept, in the
order of the fields and of the items. A field that a part does not have is ignored. Numbers are
taken for their texts in steps and variables, and bytes for the texts they encode. A number that is
too long to be written ends the reading at once.
-/
namespace Stepwise.Definition

inductive Rejection where
  | problems (all : List Problem)
  | fault (fault : Fault)
  deriving DecidableEq, Repr

abbrev Reading (α : Type) := Except Rejection α

namespace Reading

variable {α β : Type}

def both (x : Reading α) (y : Reading β) : Reading (α × β) :=
  match x, y with
  | .ok a, .ok b => .ok (a, b)
  | .ok _, .error q => .error q
  | .error (.fault f), _ => .error (.fault f)
  | .error p, .ok _ => .error p
  | .error (.problems _), .error (.fault f) => .error (.fault f)
  | .error (.problems ps), .error (.problems qs) => .error (.problems (ps ++ qs))

def inside (p : Place) : Reading α → Reading α
  | .ok a => .ok a
  | .error (.problems ps) => .error (.problems (ps.map (Problem.inside p)))
  | .error (.fault f) => .error (.fault f)

def complain (c : Complaint) : Reading α := .error (.problems [⟨[], c⟩])

end Reading

open Reading

/-- Whether numbers are taken for their texts. -/
inductive Numbers where
  | asTexts
  | refused
  deriving DecidableEq, Repr

def readWhole (n : Int) : Reading String :=
  match Value.wholeText? n with
  | some s => .ok s
  | none => .error (.fault (.value ("Exceeds the limit (" ++ toString Value.digitLimit ++
      " digits) for integer string conversion; " ++
      "use sys.set_int_max_str_digits() to increase the limit")))

def readText (numbers : Numbers) : Value → Reading String
  | .text s => .ok s
  | .bytes bs =>
    match Text.Utf8.decode bs with
    | .ok cs => .ok (String.ofList cs)
    | .error _ => complain .noUnicode
  | .int n => if numbers = .asTexts then readWhole n else complain .noText
  | .float x => if numbers = .asTexts then .ok (Decimal.floatText x) else complain .noText
  | _ => complain .noText

def readWord (v : Value) : Reading String := do
  let s ← readText .refused v
  if Text.hasLone s then complain .noUnicode else .ok s

def listItems? : Value → Option (List Value)
  | .list items | .tuple items | .set items => some items
  | _ => none

def readItems {α : Type} (read : Value → Reading α) (index : Nat) : List Value → Reading (List α)
  | [] => .ok []
  | v :: vs =>
    (fun (a, as) => a :: as) <$>
      both ((read v).inside (.index index)) (readItems read (index + 1) vs)

def readList {α : Type} (read : Value → Reading α) (v : Value) : Reading (List α) :=
  match listItems? v with
  | some items => readItems read 0 items
  | none => complain .noList

abbrev Command := { command : List String // Runnable command }

def toCommand (args : List String) : Reading Command :=
  if h : Runnable args then .ok ⟨args, h⟩ else complain .commandMissing

def readCommand (v : Value) : Reading Command :=
  match v with
  | .text line =>
    match CommandLine.split line with
    | .ok args => toCommand args
    | .error e => complain (.lineUnreadable line e)
  | v => do toCommand (← readList (readText .asTexts) v)

def keyPlace : Place := .key "[key]"

def readVariable (key value : Value) : Reading (String × String) :=
  both (((readText .asTexts key).inside keyPlace).inside (.ofKey key))
    ((readText .asTexts value).inside (.ofKey key))

def readVariables : List (Value × Value) → Reading (List (String × String))
  | [] => .ok []
  | (k, v) :: rest =>
    (fun (p, ps) => p :: ps) <$> both (readVariable k v) (readVariables rest)

def readEnv : Value → Reading Env
  | .map entries => Env.ofPairs <$> readVariables entries
  | _ => complain .noMap

def readField {α : Type} (entries : List (Value × Value)) (name : String)
    (absent : Reading α) (read : Value → Reading α) : Reading α :=
  (match Value.field? entries name with
    | none => absent
    | some v => read v).inside (.key name)

def readOption {α : Type} (read : Value → Reading α) : Value → Reading (Option α)
  | .null => .ok none
  | v => some <$> read v

def readStepFields (entries : List (Value × Value)) : Reading StepDefinition :=
  (fun (run, check, description, env, cwd) =>
    { run := run.val, check := check.map Subtype.val, description := description, env := env,
      cwd := cwd, run_runnable := run.property
      check_runnable := by
        intro command h
        cases check with
        | none => simp at h
        | some c => cases h; exact c.property }) <$>
  both (readField entries "run" (complain .missing) readCommand)
    (both (readField entries "check" (.ok none) (readOption readCommand))
      (both (readField entries "description" (.ok "") (readText .asTexts))
        (both (readField entries "env" (.ok ∅) readEnv)
          (readField entries "cwd" (.ok none) (readOption (readText .asTexts))))))

def readPart {α : Type} (part : String) (read : List (Value × Value) → Reading α) :
    Value → Reading α
  | .map entries => read entries
  | _ => complain (.noPart part)

def readStep : Value → Reading StepDefinition := readPart "PipelineStep" readStepFields

def readSlug (v : Value) : Reading { name : String // isSlug name } := do
  let name ← readWord v
  if h : isSlug name then .ok ⟨name, h⟩ else complain .noSlug

def readMetadataFields (entries : List (Value × Value)) : Reading Metadata :=
  (fun (name, description) => ⟨name.val, description, name.property⟩) <$>
  both (readField entries "name" (complain .missing) readSlug)
    (readField entries "description" (.ok "") (readText .refused))

def readMetadata : Value → Reading Metadata := readPart "PipelineMetadata" readMetadataFields

def readSteps (v : Value) : Reading { steps : List StepDefinition // steps ≠ [] } := do
  let steps ← readList readStep v
  if h : steps = [] then complain .noSteps else .ok ⟨steps, h⟩

def readMode : Value → Reading FormatMode
  | .text "fix" => .ok .fix
  | .text "check" => .ok .check
  | .text s => if Text.hasLone s then complain .noUnicode else complain .noMode
  | _ => complain .noMode

def readSpecFields (entries : List (Value × Value)) : Reading StepsDefinition :=
  (fun (steps, mode, env) => ⟨steps.val, mode, env, steps.property⟩) <$>
  both (readField entries "steps" (complain .missing) readSteps)
    (both (readField entries "format_mode" (.ok .fix) readMode)
      (readField entries "env" (.ok ∅) readEnv))

def readSpec : Value → Reading StepsDefinition := readPart "PipelineSpec" readSpecFields

def readVersion (v : Value) : Reading Unit :=
  match v, readText .refused v with
  | .text s, _ =>
    if Text.hasLone s then complain .noUnicode
    else if s = apiVersion then .ok () else complain .wrongVersion
  | _, .ok s => if s = apiVersion then .ok () else complain .wrongVersion
  | _, .error _ => complain .wrongVersion

def readKind : Value → Reading Unit
  | .text s =>
    if Text.hasLone s then complain .noUnicode
    else if s = kind then .ok () else complain .wrongKind
  | _ => complain .wrongKind

def readFields (entries : List (Value × Value)) : Reading Definition :=
  (fun (_, _, metadata, spec) => ⟨metadata, spec⟩) <$>
  both (readField entries "apiVersion" (complain .missing) readVersion)
    (both (readField entries "kind" (complain .missing) readKind)
      (both (readField entries "metadata" (complain .missing) readMetadata)
        (readField entries "spec" (complain .missing) readSpec)))

def read : Value → Reading Definition := readPart "PipelineDefinition" readFields

end Stepwise.Definition
