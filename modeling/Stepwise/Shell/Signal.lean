/-!
Signals by their numbers and names, and what is said of a program that one of them has killed.
-/
namespace Stepwise.Shell

def namedSignals : List (String × Nat) :=
  [("HUP", 1), ("INT", 2), ("QUIT", 3), ("ILL", 4), ("TRAP", 5), ("ABRT", 6), ("BUS", 7),
    ("FPE", 8), ("KILL", 9), ("USR1", 10), ("SEGV", 11), ("USR2", 12), ("PIPE", 13), ("ALRM", 14),
    ("TERM", 15), ("CHLD", 17), ("CONT", 18), ("STOP", 19), ("TSTP", 20), ("TTIN", 21),
    ("TTOU", 22), ("URG", 23), ("XCPU", 24), ("XFSZ", 25), ("VTALRM", 26), ("PROF", 27),
    ("WINCH", 28), ("IO", 29), ("PWR", 30), ("SYS", 31)]

def firstFree : Nat := 34

def lastSignal : Nat := 64

def freeSignals : List (String × Nat) :=
  (List.range (lastSignal + 1 - firstFree)).map fun k =>
    let left := lastSignal - firstFree - k
    (if k = 0 then "RTMIN" else if k ≤ 15 then "RTMIN+" ++ toString k
      else if left = 0 then "RTMAX" else "RTMAX-" ++ toString left, firstFree + k)

def signals : List (String × Nat) := namedSignals ++ freeSignals

def harmless : List Nat := [0, 17, 18, 23, 28]

def unstoppable : List Nat := [9, 19]

def quiet : List Nat := [2, 13]

def signalName (n : Nat) : String :=
  if n = 0 then "EXIT" else ((signals.find? fun s => s.2 = n).map Prod.fst).getD (toString n)

def signal? (word : String) : Option Nat :=
  match word.toNat? with
  | some n => if n ≤ lastSignal then some n else none
  | none =>
    let name := String.ofList (word.toList.map Char.toUpper)
    if name = "EXIT" then some 0 else signals.lookup name

def obituaries : List (Nat × String) :=
  [(1, "Hangup"), (3, "Quit"), (4, "Illegal instruction"), (5, "Trace/breakpoint trap"),
    (6, "Aborted"), (7, "Bus error"), (8, "Floating point exception"), (9, "Killed"),
    (10, "User defined signal 1"), (11, "Segmentation fault"), (12, "User defined signal 2"),
    (14, "Alarm clock"), (15, "Terminated"), (16, "Stack fault"), (24, "CPU time limit exceeded"),
    (25, "File size limit exceeded"), (26, "Virtual timer expired"),
    (27, "Profiling timer expired"), (29, "I/O possible"), (30, "Power failure"),
    (31, "Bad system call")]

def obituary? (n : Nat) : Option String :=
  if quiet.contains n then none
  else some ((obituaries.lookup n).getD ("Unknown signal " ++ toString n))

end Stepwise.Shell
