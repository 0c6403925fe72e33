/-!
What a command wrote, as one text for a reader: its exit code unless that is zero, then what it
wrote to each of its two outputs, if anything.
-/
namespace Stepwise.Output

def nothing : String := "(no output)"

def headed (heading : String) (text : Option String) : List String :=
  match text with
  | some t => if t = "" then [] else [heading ++ ":\n" ++ t]
  | none => []

def parts (stdout stderr : Option String) (exitCode : Option Int) : List String :=
  (match exitCode with
    | some code => if code = 0 then [] else ["Exit code: " ++ toString code]
    | none => []) ++
    headed "STDOUT" stdout ++ headed "STDERR" stderr

def format (stdout stderr : Option String) (exitCode : Option Int) : String :=
  let shown := parts stdout stderr exitCode
  if shown.isEmpty then nothing else "\n".intercalate shown

end Stepwise.Output
