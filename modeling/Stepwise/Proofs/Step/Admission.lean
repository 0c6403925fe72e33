import Stepwise.Proofs.CommandLine.RoundTrip
import Stepwise.Proofs.Definition.Building

/-! Which values make a step, and which make a pipeline. A command is whatever can be gone through,
is no text itself and gives texts of which the first is not blank; a pipeline is a list of steps with
one in it at least. Everything else is refused, with the first place that is to blame. -/
namespace Stepwise

namespace Value

/-- The first of some values that is of another kind than the wanted ones, with its place. -/
structure FirstOther {α : Type} (wanted : α → Value) (items : List Value) (index : Nat)
    (v : Value) : Prop where
  here : items[index]? = some v
  other : ∀ a, v ≠ wanted a
  before : ∀ i < index, ∃ a, items[i]? = some (wanted a)

/-- A function that picks the wanted ones out of values, if there are no others. -/
structure Gathers {α : Type} (wanted : α → Value) (refusal : Nat → String → ConfigurationError)
    (f : Nat → List Value → Except ConfigurationError (List α)) : Prop where
  all : ∀ index as, f index (as.map wanted) = .ok as
  cons : ∀ index a items, f index (wanted a :: items) = (a :: ·) <$> f (index + 1) items
  other : ∀ index v items, (∀ a, v ≠ wanted a) →
    f index (v :: items) = .error (refusal index v.kind)

theorem gathers_texts : Gathers .text .argumentIsNoText texts where
  all := texts_map_text
  cons := fun _ _ _ => rfl
  other := by
    intro index v items no
    cases v with
    | text s => exact absurd rfl (no s)
    | _ => rfl

theorem gathers_steps : Gathers .step .notAStep steps where
  all := steps_map_step
  cons := fun _ _ _ => rfl
  other := by
    intro index v items no
    cases v with
    | step s => exact absurd rfl (no s)
    | _ => rfl

section Gathering

variable {α : Type} {wanted : α → Value} {refusal : Nat → String → ConfigurationError}
  {f : Nat → List Value → Except ConfigurationError (List α)} {items : List Value} {v : Value}

theorem FirstOther.tail {a : α} {k : Nat} (h : FirstOther wanted items k v) :
    FirstOther wanted (wanted a :: items) (k + 1) v where
  here := h.here
  other := h.other
  before := by
    intro i lower
    cases i with
    | zero => exact ⟨a, rfl⟩
    | succ i => exact h.before i (Nat.lt_of_succ_lt_succ lower)

theorem all_or_firstOther (wanted : α → Value) (items : List Value) :
    (∃ as : List α, as.map wanted = items) ∨ ∃ k v, FirstOther wanted items k v := by
  induction items with
  | nil => exact .inl ⟨[], rfl⟩
  | cons v items ih =>
    by_cases is : ∃ a, v = wanted a
    · obtain ⟨a, rfl⟩ := is
      rcases ih with ⟨as, rfl⟩ | ⟨k, w, first⟩
      · exact .inl ⟨a :: as, rfl⟩
      · exact .inr ⟨k + 1, w, first.tail⟩
    · refine .inr ⟨0, v, rfl, fun a same => is ⟨a, same⟩, ?_⟩
      intro i lower
      cases lower

theorem Gathers.of_firstOther (h : Gathers wanted refusal f) {k : Nat}
    (first : FirstOther wanted items k v) (index : Nat) :
    f index items = .error (refusal (index + k) v.kind) := by
  induction items generalizing index k with
  | nil => cases first.here
  | cons w items ih =>
    cases k with
    | zero =>
      cases first.here
      exact h.other index _ items first.other
    | succ k =>
      obtain ⟨a, here⟩ := first.before 0 (Nat.succ_pos k)
      cases here
      have later : FirstOther wanted items k v :=
        ⟨first.here, first.other, fun i lower => first.before (i + 1) (Nat.succ_lt_succ lower)⟩
      rw [h.cons, ih later (index + 1), Nat.add_right_comm, Nat.add_assoc]
      rfl

theorem Gathers.eq_ok (h : Gathers wanted refusal f) {index : Nat} {as : List α} :
    f index items = .ok as ↔ as.map wanted = items := by
  constructor
  · intro gathered
    rcases all_or_firstOther wanted items with ⟨bs, rfl⟩ | ⟨k, v, first⟩
    · rw [h.all] at gathered
      rw [Except.ok.inj gathered]
    · rw [h.of_firstOther first] at gathered
      cases gathered
  · rintro rfl
    exact h.all index as

theorem Gathers.eq_error (h : Gathers wanted refusal f) {index : Nat} {e : ConfigurationError} :
    f index items = .error e ↔
      ∃ k v, FirstOther wanted items k v ∧ e = refusal (index + k) v.kind := by
  constructor
  · intro refused
    rcases all_or_firstOther wanted items with ⟨bs, rfl⟩ | ⟨k, v, first⟩
    · rw [h.all] at refused
      cases refused
    · rw [h.of_firstOther first] at refused
      exact ⟨k, v, first, (Except.error.inj refused).symm⟩
  · rintro ⟨k, v, first, rfl⟩
    exact h.of_firstOther first index

end Gathering

/-- What a value gives to those who go through it, one after the other. -/
inductive Iterates : Value → List Value → Prop where
  | list (items : List Value) : Iterates (.list items) items
  | tuple (items : List Value) : Iterates (.tuple items) items
  | set (items : List Value) : Iterates (.set items) items
  | map (entries : List (Value × Value)) : Iterates (.map entries) (entries.map Prod.fst)
  | text (s : String) : Iterates (.text s) (s.toList.map fun c => .text (String.singleton c))
  | bytes (bs : List UInt8) : Iterates (.bytes bs) (bs.map fun b => .int b.toNat)

/-- A value that is a command, with its arguments. -/
structure IsCommand (v : Value) (command : List String) : Prop where
  noText : ∀ s, v ≠ .text s
  gives : v.Iterates (command.map .text)
  first : ∃ first rest, command = first :: rest ∧ Text.allBlank first = false

/-- Why a value is no command. Its kind is looked at first and its first argument last. -/
inductive Refused : Value → ConfigurationError → Prop where
  | text (s : String) : Refused (.text s) (.commandIsText s)
  | nothing {v : Value} (noText : ∀ s, v ≠ .text s) (nothing : v.isNothing = true) :
      Refused v .commandMissing
  | noSequence {v : Value} (something : v.isNothing = false) (no : ∀ items, ¬ v.Iterates items) :
      Refused v (.commandIsNoSequence v.kind)
  | argument {v w : Value} {items : List Value} {index : Nat} (noText : ∀ s, v ≠ .text s)
      (gives : v.Iterates items) (first : FirstOther .text items index w) :
      Refused v (.argumentIsNoText index w.kind)
  | blank {v : Value} {first : String} {rest : List String} (noText : ∀ s, v ≠ .text s)
      (gives : v.Iterates ((first :: rest).map .text)) (blank : Text.allBlank first = true) :
      Refused v .commandMissing

section Commands

variable {v : Value} {items : List Value}

theorem elements?_eq_some : v.elements? = some items ↔ v.Iterates items := by
  constructor
  · intro given
    cases v <;> cases given <;> constructor
  · rintro (_ | _ | _ | _ | _ | _) <;> rfl

theorem Iterates.isNothing_eq (h : v.Iterates items) : v.isNothing = items.isEmpty := by
  cases h with
  | text s =>
    rw [Bool.eq_iff_iff]
    simp [isNothing]
  | _ => simp [isNothing]

theorem command_eq (noText : ∀ s, v ≠ .text s) : v.command =
    if v.isNothing then .ok []
    else match v.elements? with
      | none => .error (.commandIsNoSequence v.kind)
      | some items => texts 0 items := by
  cases v with
  | text s => exact absurd rfl (noText s)
  | _ => rfl

/-- A value that can be gone through has its arguments gathered, even if there are none. -/
theorem command_of_iterates (noText : ∀ s, v ≠ .text s) (gives : v.Iterates items) :
    v.command = texts 0 items := by
  rw [command_eq noText, gives.isNothing_eq, elements?_eq_some.mpr gives]
  cases items <;> rfl

theorem command_eq_ok {command : List String} (filled : command ≠ []) :
    v.command = .ok command ↔ (∀ s, v ≠ .text s) ∧ v.Iterates (command.map .text) := by
  constructor
  · intro given
    have noText : ∀ s, v ≠ .text s := by
      rintro s rfl
      cases given
    refine ⟨noText, ?_⟩
    rw [command_eq noText] at given
    split at given
    · exact absurd (Except.ok.inj given).symm filled
    · cases found : v.elements? with
      | none => simp [found] at given
      | some items =>
        simp only [found] at given
        rw [gathers_texts.eq_ok.mp given]
        exact elements?_eq_some.mp found
  · rintro ⟨noText, gives⟩
    rw [command_of_iterates noText gives]
    exact gathers_texts.all 0 command

theorem command_of_nothing (noText : ∀ s, v ≠ .text s) (nothing : v.isNothing = true) :
    v.command = .ok [] := by
  rw [command_eq noText, if_pos nothing]

theorem command_of_noSequence (something : v.isNothing = false) (no : ∀ items, ¬ v.Iterates items) :
    v.command = .error (.commandIsNoSequence v.kind) := by
  have noText : ∀ s, v ≠ .text s := by
    rintro s rfl
    exact no _ (.text s)
  have none : v.elements? = none := by
    cases found : v.elements? with
    | none => rfl
    | some items => exact absurd (elements?_eq_some.mp found) (no items)
  rw [command_eq noText, something, none]
  rfl

theorem isNothing_of_command_nil (h : v.command = .ok []) :
    (∀ s, v ≠ .text s) ∧ v.isNothing = true := by
  have noText : ∀ s, v ≠ .text s := by
    rintro s rfl
    cases h
  refine ⟨noText, ?_⟩
  rw [command_eq noText] at h
  split at h
  · assumption
  · cases found : v.elements? with
    | none => simp [found] at h
    | some items =>
      simp only [found] at h
      have empty : [] = items := gathers_texts.eq_ok.mp h
      rw [(elements?_eq_some.mp found).isNothing_eq, ← empty]
      rfl

theorem refused_of_command {e : ConfigurationError} (h : v.command = .error e) : v.Refused e := by
  by_cases text : ∃ s, v = .text s
  · obtain ⟨s, rfl⟩ := text
    cases h
    exact .text s
  · have noText : ∀ s, v ≠ .text s := fun s same => text ⟨s, same⟩
    rw [command_eq noText] at h
    split at h
    · cases h
    · rename_i something
      cases found : v.elements? with
      | none =>
        simp only [found, Except.error.injEq] at h
        subst h
        refine .noSequence (by simpa using something) fun items gives => ?_
        rw [elements?_eq_some.mpr gives] at found
        cases found
      | some items =>
        simp only [found] at h
        obtain ⟨k, w, first, rfl⟩ := gathers_texts.eq_error.mp h
        rw [Nat.zero_add]
        exact .argument noText (elements?_eq_some.mp found) first

end Commands

end Value

theorem runnable_iff {command : List String} :
    Runnable command ↔ ∃ first rest, command = first :: rest ∧ Text.allBlank first = false := by
  constructor
  · intro h
    obtain ⟨first, rest, rfl⟩ := List.exists_cons_of_ne_nil h.ne_nil
    exact ⟨first, rest, rfl, h⟩
  · rintro ⟨first, rest, rfl, h⟩
    exact runnable_cons h

namespace Step

variable {v : Value} {description : String} {env : Env} {cwd : Option Directory}

theorem ofCommand_of_not_runnable {command : List String} (h : ¬ Runnable command) :
    ofCommand command description env cwd = .error .commandMissing :=
  dif_neg h

theorem ofValue_of_command {command : List String} (h : v.command = .ok command) :
    ofValue v description env cwd = ofCommand command description env cwd := by
  unfold ofValue
  rw [h]
  rfl

theorem ofValue_of_error {e : ConfigurationError} (h : v.command = .error e) :
    ofValue v description env cwd = .error e := by
  unfold ofValue
  rw [h]
  rfl

theorem ofValue_eq_ok {s : Step} : ofValue v description env cwd = .ok s ↔
    v.IsCommand s.command ∧ s.description = description ∧ s.env = env ∧ s.cwd = cwd := by
  constructor
  · intro made
    cases given : v.command with
    | error e =>
      rw [ofValue_of_error given] at made
      cases made
    | ok command =>
      rw [ofValue_of_command given] at made
      obtain ⟨runnable, -⟩ := ofCommand_eq_ok made
      rw [ofCommand_of_runnable runnable] at made
      cases made
      obtain ⟨noText, gives⟩ := (Value.command_eq_ok runnable.ne_nil).mp given
      exact ⟨⟨noText, gives, runnable_iff.mp runnable⟩, rfl, rfl, rfl⟩
  · rintro ⟨isCommand, rfl, rfl, rfl⟩
    have given := (Value.command_eq_ok s.runnable.ne_nil).mpr ⟨isCommand.noText, isCommand.gives⟩
    rw [ofValue_of_command given]
    exact ofCommand_of_runnable s.runnable _ _ _

theorem ofValue_eq_error {e : ConfigurationError} :
    ofValue v description env cwd = .error e ↔ v.Refused e := by
  constructor
  · intro refused
    cases given : v.command with
    | error e' =>
      rw [ofValue_of_error given] at refused
      cases refused
      exact Value.refused_of_command given
    | ok command =>
      rw [ofValue_of_command given] at refused
      by_cases runnable : Runnable command
      · rw [ofCommand_of_runnable runnable] at refused
        cases refused
      · rw [ofCommand_of_not_runnable runnable] at refused
        cases refused
        cases command with
        | nil =>
          obtain ⟨noText, nothing⟩ := Value.isNothing_of_command_nil given
          exact .nothing noText nothing
        | cons first rest =>
          obtain ⟨noText, gives⟩ := (Value.command_eq_ok (List.cons_ne_nil first rest)).mp given
          exact .blank noText gives (by simpa [Runnable] using runnable)
  · intro refused
    cases refused with
    | text s => exact ofValue_of_error rfl
    | nothing noText nothing =>
      rw [ofValue_of_command (Value.command_of_nothing noText nothing)]
      exact ofCommand_of_not_runnable fun runnable => runnable.ne_nil rfl
    | noSequence something no => exact ofValue_of_error (Value.command_of_noSequence something no)
    | argument noText gives first =>
      apply ofValue_of_error
      rw [Value.command_of_iterates noText gives, Value.gathers_texts.of_firstOther first,
        Nat.zero_add]
    | blank noText gives blank =>
      rw [ofValue_of_command ((Value.command_eq_ok (List.cons_ne_nil _ _)).mpr ⟨noText, gives⟩)]
      apply ofCommand_of_not_runnable
      intro runnable
      have filled : Text.allBlank _ = false := runnable
      rw [List.headD_cons, blank] at filled
      cases filled

theorem exists_ofValue_iff :
    (∃ s, ofValue v description env cwd = .ok s) ↔ ∃ command, v.IsCommand command := by
  constructor
  · rintro ⟨s, made⟩
    exact ⟨s.command, (ofValue_eq_ok.mp made).1⟩
  · rintro ⟨command, isCommand⟩
    have runnable := runnable_iff.mpr isCommand.first
    exact ⟨⟨command, description, env, cwd, runnable⟩,
      ofValue_eq_ok.mpr ⟨isCommand, rfl, rfl, rfl⟩⟩

theorem name_ne_empty (s : Step) : s.name ≠ "" := by
  unfold name
  split
  · intro empty
    have read := CommandLine.split_join s.command
    rw [empty] at read
    exact s.runnable.ne_nil (Except.ok.inj read).symm
  · assumption

end Step

namespace Pipeline

variable {items : List Value} {name : String} {env : Env}

theorem ofValues_eq_ok {p : Pipeline} : ofValues items name env = .ok p ↔
    p.steps.map .step = items ∧ p.name = name ∧ p.env = env := by
  constructor
  · intro made
    cases gathered : Value.steps 0 items with
    | error e => simp [ofValues, gathered, bind, Except.bind] at made
    | ok steps =>
      obtain rfl := Value.gathers_steps.eq_ok.mp gathered
      by_cases none : steps = []
      · subst none
        cases made
      · rw [ofValues_map_step none] at made
        cases made
        exact ⟨rfl, rfl, rfl⟩
  · rintro ⟨rfl, rfl, rfl⟩
    exact ofValues_map_step p.nonempty p.name p.env

theorem ofValues_eq_error {e : ConfigurationError} : ofValues items name env = .error e ↔
    (items = [] ∧ e = .noSteps) ∨
      ∃ k v, Value.FirstOther .step items k v ∧ e = .notAStep k v.kind ∧
        e.message = "Pipeline step " ++ toString k ++ " must be a Step, got " ++ v.kind := by
  constructor
  · intro refused
    cases gathered : Value.steps 0 items with
    | error e' =>
      simp only [ofValues, gathered, bind, Except.bind, Except.error.injEq] at refused
      subst refused
      obtain ⟨k, v, first, rfl⟩ := Value.gathers_steps.eq_error.mp gathered
      rw [Nat.zero_add]
      exact .inr ⟨k, v, first, rfl, rfl⟩
    | ok steps =>
      obtain rfl := Value.gathers_steps.eq_ok.mp gathered
      by_cases none : steps = []
      · subst none
        cases refused
        exact .inl ⟨rfl, rfl⟩
      · rw [ofValues_map_step none] at refused
        cases refused
  · rintro (⟨rfl, rfl⟩ | ⟨k, v, first, rfl, -⟩)
    · rfl
    · have gathered := Value.gathers_steps.of_firstOther first 0
      simp [ofValues, gathered, bind, Except.bind]

theorem exists_ofValues_iff : (∃ p, ofValues items name env = .ok p) ↔
    items ≠ [] ∧ ∀ v ∈ items, ∃ s, v = .step s := by
  constructor
  · rintro ⟨p, made⟩
    obtain ⟨rfl, -, -⟩ := ofValues_eq_ok.mp made
    refine ⟨by simpa using p.nonempty, ?_⟩
    intro v member
    obtain ⟨s, -, rfl⟩ := List.mem_map.mp member
    exact ⟨s, rfl⟩
  · rintro ⟨filled, all⟩
    rcases Value.all_or_firstOther .step items with ⟨steps, rfl⟩ | ⟨k, v, first⟩
    · exact ⟨_, ofValues_map_step (by simpa using filled) name env⟩
    · obtain ⟨s, same⟩ := all v (List.mem_of_getElem? first.here)
      exact absurd same (first.other s)

end Pipeline

/-- A value makes a step exactly if it is a command, which is then the command of the step and makes
a name for it; if it is none, it is refused for what is wrong with it. Values make a pipeline exactly
if there are some and all are steps, which are kept in order; if there are others, the first of them
is told of. -/
theorem commands_admitted (v : Value) (description : String) (env : Env) (cwd : Option Directory)
    (items : List Value) (name : String) :
    ((∃ s, Step.ofValue v description env cwd = .ok s) ↔ ∃ command, v.IsCommand command) ∧
    (∀ s, Step.ofValue v description env cwd = .ok s ↔
      v.IsCommand s.command ∧ s.description = description ∧ s.env = env ∧ s.cwd = cwd) ∧
    (∀ e, Step.ofValue v description env cwd = .error e ↔ v.Refused e) ∧
    (∀ s : Step, s.executable :: s.args = s.command ∧ s.name ≠ "") ∧
    ((∃ p, Pipeline.ofValues items name env = .ok p) ↔
      items ≠ [] ∧ ∀ v ∈ items, ∃ s, v = .step s) ∧
    (∀ p, Pipeline.ofValues items name env = .ok p ↔
      p.steps.map .step = items ∧ p.name = name ∧ p.env = env) ∧
    (∀ e, Pipeline.ofValues items name env = .error e ↔ (items = [] ∧ e = .noSteps) ∨
      ∃ k v, Value.FirstOther .step items k v ∧ e = .notAStep k v.kind ∧
        e.message = "Pipeline step " ++ toString k ++ " must be a Step, got " ++ v.kind) :=
  ⟨Step.exists_ofValue_iff, fun _ => Step.ofValue_eq_ok, fun _ => Step.ofValue_eq_error,
    fun s => ⟨s.executable_args, s.name_ne_empty⟩, Pipeline.exists_ofValues_iff,
    fun _ => Pipeline.ofValues_eq_ok, fun _ => Pipeline.ofValues_eq_error⟩

end Stepwise
