import Mathlib.Data.List.Induction
import Stepwise.Log

/-! The life of a log, whatever is called in whatever order. The handler comes with the first setup
and stays the only one; the level is that of the last setup. A record of a logger at or below the
root finds the root among those above it, whichever other loggers are there, so that it is written
by the one handler or not at all. -/
namespace Stepwise.Log

def loggerAt (names : List String) : String := ".".intercalate (root :: names)

def shortName : List String → String
  | [] => root
  | names => ".".intercalate names

/-- Names that can stand between dots. -/
def Proper (names : List String) : Prop := ∀ name ∈ names, name ≠ "" ∧ '.' ∉ name.toList

theorem loggerAt_cons (name : String) (names : List String) :
    loggerAt (name :: names) = root ++ "." ++ ".".intercalate (name :: names) :=
  String.intercalate_cons_cons

theorem tag_loggerAt (names : List String) : tag (loggerAt names) = shortName names := by
  cases names with
  | nil => rfl
  | cons name names =>
    have begins : (loggerAt (name :: names)).toList =
        (root.toList ++ ['.']) ++ (".".intercalate (name :: names)).toList := by
      simp [loggerAt_cons]
    have cut : tagChars (loggerAt (name :: names)).toList =
        (".".intercalate (name :: names)).toList := by
      unfold tagChars
      rw [begins]
      simp
    rw [tag, cut, String.ofList_toList]
    rfl

section Above

def Under (cs : List Char) : Prop :=
  cs = root.toList ∨ ∃ c rest, cs = root.toList ++ '.' :: c :: rest ∧ c ≠ '.'

theorem under_loggerAt {names : List String} (h : Proper names) :
    Under (loggerAt names).toList := by
  cases names with
  | nil => exact .inl rfl
  | cons name names =>
    obtain ⟨filled, noDot⟩ := h name List.mem_cons_self
    obtain ⟨c, rest, chars⟩ := List.exists_cons_of_ne_nil (by simpa using filled : name.toList ≠ [])
    have apart : c ≠ '.' := by
      rintro rfl
      exact noDot (chars ▸ List.mem_cons_self)
    have more : ∃ cs, (".".intercalate (name :: names)).toList = name.toList ++ cs := by
      cases names with
      | nil => exact ⟨[], by simp⟩
      | cons next names =>
        refine ⟨(".".intercalate (next :: names)).toList.cons '.', ?_⟩
        simp [String.intercalate_cons_cons]
    obtain ⟨cs, more⟩ := more
    refine .inr ⟨c, rest ++ cs, ?_, apart⟩
    simp [loggerAt_cons, more, chars]

variable {there : List String}

theorem parentBelow_eq_none {name : List Char} (h : '.' ∉ name) (position : Nat) :
    parentBelow there name position = none := by
  have noDot : ∀ k, name[k]? ≠ some '.' := fun k dot => h (List.mem_of_getElem? dot)
  induction position with
  | zero => rw [parentBelow]
  | succ k ih => rw [parentBelow, if_neg (noDot k), ih]

theorem parentBelow_under (registered : root ∈ there) {name : List Char} {c : Char}
    {rest : List Char} (behind : name = root.toList ++ '.' :: c :: rest) (h : c ≠ '.')
    {position : Nat} (low : 10 ≤ position) (high : position ≤ name.length) :
    ∃ upper, parentBelow there name position = some upper ∧ Under upper.toList ∧
      upper.length < position := by
  have size : root.toList.length = 9 := rfl
  have first : name[9]? = some '.' := by simp [behind, size]
  have second : name[10]? = some c := by simp [behind, List.getElem?_append, size]
  -- The part before a dot is the root, or has the first dot and what follows it in it.
  have under : ∀ k, 9 ≤ k → k ≠ 10 → Under (name.take k) := by
    intro k low other
    rcases Nat.eq_or_lt_of_le low with rfl | lower
    · exact .inl (by simp [behind, size])
    · obtain ⟨m, rfl⟩ : ∃ m, k = m + 11 := ⟨k - 11, by omega⟩
      have whole : root.toList.take (m + 11) = root.toList :=
        List.take_of_length_le (by rw [size]; omega)
      exact .inr ⟨c, rest.take m, by simp [behind, List.take_append, size, whole], h⟩
  induction position using Nat.strongRecOn with
  | ind position ih =>
    obtain ⟨k, rfl⟩ : ∃ k, position = k + 1 := ⟨position - 1, by omega⟩
    rw [parentBelow]
    by_cases dot : name[k]? = some '.'
    · have apart : k ≠ 10 := by
        rintro rfl
        rw [second] at dot
        exact h (Option.some.inj dot)
      have short : (String.ofList (name.take k)).length = k := by
        simp only [← String.length_toList, String.toList_ofList, List.length_take]
        omega
      simp only [dot, if_true, if_neg (by omega : k ≠ 0)]
      by_cases found : there.contains (String.ofList (name.take k)) = true
      · rw [if_pos found]
        refine ⟨_, rfl, ?_, by omega⟩
        rw [String.toList_ofList]
        exact under k (by omega) apart
      · rw [if_neg found]
        have deeper : k ≠ 9 := by
          rintro rfl
          have whole : String.ofList (name.take 9) = root := by simp [behind, size]
          rw [whole] at found
          exact found (List.contains_iff_mem.mpr registered)
        obtain ⟨upper, here, above, shorter⟩ := ih (k - 1) (by omega) (by omega) (by omega)
        exact ⟨upper, here, above, by omega⟩
    · have deeper : k ≠ 9 := by
        rintro rfl
        exact dot first
      rw [if_neg dot]
      obtain ⟨upper, here, above, shorter⟩ := ih k (by omega) (by omega) (by omega)
      exact ⟨upper, here, above, by omega⟩

theorem parent?_root : parent? there root = none :=
  parentBelow_eq_none (by decide) _

theorem chain_under (registered : root ∈ there) {logger : String} (h : Under logger.toList)
    {steps : Nat} (enough : logger.length < steps) :
    root ∈ chain there steps logger ∧ ∀ upper ∈ chain there steps logger, Under upper.toList := by
  induction steps generalizing logger with
  | zero => cases enough
  | succ steps ih =>
    rcases h with top | ⟨c, rest, behind, apart⟩
    · obtain rfl := String.toList_inj.mp top
      rw [chain, parent?_root]
      simp [Under]
    · have low : 10 ≤ logger.length := by
        rw [← String.length_toList, behind]
        simp [root]
      obtain ⟨upper, parent, above, shorter⟩ := parentBelow_under registered behind apart low
        (String.length_toList ▸ Nat.le_refl _)
      obtain ⟨reached, all⟩ := ih above (by omega)
      rw [chain, parent?, parent]
      refine ⟨List.mem_cons_of_mem _ reached, ?_⟩
      intro other member
      rcases List.mem_cons.mp member with rfl | later
      · exact .inr ⟨c, rest, behind, apart⟩
      · exact all other later

variable {names : List String}

theorem isBelow_root (registered : root ∈ there) (h : Proper names) :
    isBelow there root (loggerAt names) = true :=
  List.contains_iff_mem.mpr
    (chain_under registered (under_loggerAt h) (Nat.lt_succ_self _)).1

theorem not_isBelow_silent (registered : root ∈ there) (h : Proper names) :
    isBelow there silent (loggerAt names) = false := by
  have outside : ¬ Under silent.toList := by
    rintro (same | ⟨c, rest, same, -⟩)
    · simp [silent, root] at same
    · simp [silent, root] at same
  rw [isBelow, Bool.eq_false_iff]
  intro found
  exact outside ((chain_under registered (under_loggerAt h) (Nat.lt_succ_self _)).2 _
    (List.contains_iff_mem.mp found))

end Above

def Call.loudness? : Call → Option Bool
  | setup verbose => some verbose
  | record _ => none

def lastSetup? (calls : List Call) : Option Bool := (calls.filterMap Call.loudness?).getLast?

theorem lastSetup?_concat (calls : List Call) (c : Call) :
    lastSetup? (calls ++ [c]) = c.loudness?.or (lastSetup? calls) := by
  cases c <;> simp [lastSetup?, Call.loudness?]

/-- A setup that calls lead to, told by how loud the last of them is that is for a setup. -/
structure Kept (last : Option Bool) (s : LogSetup) : Prop where
  done : s.done = last.isSome
  handlers : s.handlers = if last = none then 0 else 1
  propagate : s.propagate = last.isNone
  level : s.level = last.elim .unset LogSetup.levelFor
  registered : root ∈ s.loggers

theorem kept_initial : Kept none .initial where
  done := rfl
  handlers := rfl
  propagate := rfl
  level := rfl
  registered := by decide

section Calls

variable {last : Option Bool} {s : LogSetup}

theorem Kept.withLogger (h : Kept last s) (logger : String) : Kept last (s.withLogger logger) := by
  unfold LogSetup.withLogger
  split
  · exact h
  · exact ⟨h.done, h.handlers, h.propagate, h.level, List.mem_cons_of_mem _ h.registered⟩

theorem Kept.setup (h : Kept last s) (verbose : Bool) : Kept (some verbose) (s.setup verbose) := by
  have done := h.done
  have handlers := h.handlers
  have propagate := h.propagate
  cases last with
  | none => constructor <;> simp_all [LogSetup.setup, h.registered]
  | some before => constructor <;> simp_all [LogSetup.setup, h.registered]

theorem Kept.call (h : Kept last s) (c : Call) : Kept (c.loudness?.or last) (s.call c).1 := by
  cases c with
  | setup verbose => exact h.setup verbose
  | record r =>
    simp only [LogSetup.call, Call.loudness?, Option.none_or]
    split
    · exact h
    · exact h.withLogger r.logger

theorem kept_after (calls : List Call) : Kept (lastSetup? calls) (LogSetup.initial.after calls) := by
  induction calls using List.reverseRecOn with
  | nil => exact kept_initial
  | append_singleton calls c ih =>
    rw [lastSetup?_concat, LogSetup.after, List.foldl_append]
    exact ih.call c

theorem Kept.written {verbose : Bool} (h : Kept (some verbose) s) {names : List String}
    (proper : Proper names) (level : Level) (message : String) :
    s.written ⟨loggerAt names, level, message⟩ =
      if (LogSetup.levelFor verbose).rank ≤ level.rank then
        "[" ++ shortName names ++ "] " ++ message ++ "\n"
      else "" := by
  have below : s.isBelowRoot (loggerAt names) = true := isBelow_root h.registered proper
  have heard : isBelow s.loggers silent (loggerAt names) = false :=
    not_isBelow_silent h.registered proper
  have level' : s.level = LogSetup.levelFor verbose := h.level
  have handlers : s.handlers = 1 := h.handlers
  have set : LogSetup.levelFor verbose ≠ .unset := by cases verbose <;> decide
  have threshold : s.threshold (loggerAt names) = (LogSetup.levelFor verbose).rank := by
    simp [LogSetup.threshold, below, level', set]
  simp only [LogSetup.written, threshold, heard, below, handlers]
  by_cases loud : (LogSetup.levelFor verbose).rank ≤ level.rank
  · simp [loud, Int.not_lt.mpr loud, tagged, tag_loggerAt, String.append_assoc]
  · simp [loud, Int.not_le.mp loud]

end Calls

/-- What holds of a setup after calls, and of what is called next. There is no handler before the
first setup and one after it, the level is that of the last setup, a setup writes nothing, and a
record of a logger at or below the root is written once with its short name or not at all. -/
structure Lawful (calls : List Call) (s : LogSetup) : Prop where
  handlers : s.handlers = if lastSetup? calls = none then 0 else 1
  propagate : s.propagate = (lastSetup? calls).isNone
  unset : lastSetup? calls = none → s.level = .unset
  level : ∀ verbose, lastSetup? calls = some verbose →
    s.level = if verbose then .debug else .warning
  quiet : ∀ verbose, (s.call (.setup verbose)).2 = ""
  writes : ∀ verbose, lastSetup? calls = some verbose → ∀ names, Proper names → ∀ level message,
    (s.call (.record ⟨loggerAt names, level, message⟩)).2 =
      if (if verbose then Level.debug else Level.warning).rank ≤ level.rank then
        "[" ++ shortName names ++ "] " ++ message ++ "\n"
      else ""

/-- Whatever is called on a log, its setup is lawful at every point, and so is what is written. -/
theorem calls_lawful (calls : List Call) : Lawful calls (LogSetup.initial.after calls) := by
  have kept := kept_after calls
  constructor
  case handlers => exact kept.handlers
  case propagate => exact kept.propagate
  case unset =>
    intro none
    rw [kept.level, none]
    rfl
  case level =>
    intro verbose last
    rw [kept.level, last]
    rfl
  case quiet => exact fun _ => rfl
  case writes =>
    intro verbose last names proper level message
    have next := kept.call (.record ⟨loggerAt names, level, message⟩)
    rw [last] at next
    exact Kept.written next proper level message

end Stepwise.Log
