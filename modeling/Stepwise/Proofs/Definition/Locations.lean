import Stepwise.Proofs.Definition.Faults
import Stepwise.Proofs.Definition.Findings

/-! Where the problems of a definition are told to be. A definition whose other parts are in order is
told of by what is told of its steps, each read on its own, with the place of the step before every
place. So the steps that are named are those that are not in order. -/
namespace Stepwise.Definition

open Reading

section Texts

theorem extend_ne_empty {path : String} (h : path ≠ "") (p : Place) : p.extend path ≠ "" := by
  cases p <;> simp [Place.extend, h]

theorem extend_append {path : String} (h : path ≠ "") (base : String) (p : Place) :
    p.extend (base ++ path) = base ++ p.extend path := by
  cases p <;> simp [Place.extend, h, String.append_assoc]

theorem foldl_extend {path : String} (h : path ≠ "") (base : String) (places : List Place) :
    places.foldl Place.extend (base ++ path) = base ++ places.foldl Place.extend path := by
  induction places generalizing path with
  | nil => rfl
  | cons p places ih =>
    rw [List.foldl_cons, List.foldl_cons, extend_append h, ih (extend_ne_empty h p)]

theorem foldl_extend_ne_empty {path : String} (h : path ≠ "") (places : List Place) :
    places.foldl Place.extend path ≠ "" := by
  induction places generalizing path with
  | nil => exact h
  | cons p places ih => exact ih (extend_ne_empty h p)

def Keyed (places : List Place) : Prop :=
  ∃ name rest, places = .key name :: rest ∧ name ≠ ""

def stepPlace (index : Nat) : List Place := [.key "spec", .key "steps", .index index]

def stepText (index : Nat) : String := "spec.steps[" ++ toString index ++ "]"

theorem pathText_step (index : Nat) {places : List Place} (h : Keyed places) :
    Place.pathText (stepPlace index ++ places) =
      stepText index ++ "." ++ Place.pathText places := by
  obtain ⟨name, rest, rfl, filled⟩ := h
  have own : Place.pathText (.key name :: rest) = rest.foldl Place.extend name := by
    have text : (Place.key name :: rest).foldl Place.extend "" = rest.foldl Place.extend name := rfl
    unfold Place.pathText
    rw [text]
    exact if_neg (foldl_extend_ne_empty filled rest)
  have outer : (stepPlace index ++ .key name :: rest).foldl Place.extend "" =
      rest.foldl Place.extend (stepText index ++ "." ++ name) := by
    have start : Place.extend (stepText index) (.key name) = stepText index ++ "." ++ name := by
      simp [Place.extend, stepText]
    rw [← start]
    rfl
  have whole := foldl_extend filled (stepText index ++ ".") rest
  unfold Place.pathText at own ⊢
  rw [outer, whole, own]
  exact if_neg (by simp [stepText])

def stepEntry (index : Nat) (p : Problem) : String :=
  "  " ++ (stepText index ++ "." ++ Place.pathText p.place) ++ ": " ++ p.complaint.message

def inStep (index : Nat) (p : Problem) : Problem := { p with place := stepPlace index ++ p.place }

theorem message_inStep (index : Nat) {p : Problem} (h : Keyed p.place) :
    (inStep index p).message = stepEntry index p := by
  rw [Problem.message, inStep, pathText_step index h]
  rfl

/-- An entry names a step: its place begins with that of the step. -/
def Names (entry : String) (index : Nat) : Prop :=
  ("  " ++ stepText index ++ ".").toList <+: entry.toList

theorem names_stepEntry {index other : Nat} {p : Problem} :
    Names (stepEntry index p) other ↔ other = index := by
  have shape : ∀ n : Nat, ("  " ++ stepText n ++ ".").toList =
      "  spec.steps[".toList ++ ((toString n).toList ++ [']', '.']) := by
    intro n
    simp [stepText, String.toList_append]
  have entry : (stepEntry index p).toList = ("  " ++ stepText index ++ ".").toList ++
      (Place.pathText p.place ++ ": " ++ p.complaint.message).toList := by
    simp [stepEntry, String.toList_append]
  constructor
  · intro h
    unfold Names at h
    rw [entry, shape, shape, List.append_assoc, List.prefix_append_right_inj, List.append_assoc] at h
    obtain ⟨rest, same⟩ := h
    have digits : ∀ (n : Nat) (more : List Char),
        ((toString n).toList ++ ']' :: more).takeWhile (· ≠ ']') = (toString n).toList := by
      intro n more
      have each : ∀ c ∈ (toString n).toList, decide (c ≠ ']') = true := by
        intro c member
        have digit := isDigit_of_mem_toString member
        simp only [decide_eq_true_eq]
        rintro rfl
        cases digit
      rw [List.takeWhile_append_of_pos each]
      simp
    have number := congrArg (List.takeWhile (· ≠ ']')) same
    simp only [List.append_assoc, List.cons_append, List.nil_append, digits] at number
    exact toString_nat_injective number
  · rintro rfl
    unfold Names
    rw [entry]
    exact List.prefix_append _ _

end Texts

section Steps

theorem keyed_of_finds {fields : List (Value × Value)} {ps : List Problem}
    (found : (readStep (.map fields)).Finds ps) : ∀ p ∈ ps, Keyed p.place := by
  have field : ∀ {α : Type} {name : String} {absent : Reading α} {read : Value → Reading α}
      {ps : List Problem}, name ≠ "" → (readField fields name absent read).Finds ps →
      ∀ p ∈ ps, Keyed p.place := by
    intro α name absent read ps filled found p member
    obtain ⟨inner, -, rfl⟩ := finds_inside.mp found
    obtain ⟨q, -, rfl⟩ := List.mem_map.mp member
    exact ⟨name, q.place, rfl, filled⟩
  obtain ⟨run, _, first, fromCheck, rfl⟩ := finds_both.mp (finds_map.mp found)
  obtain ⟨check, _, second, fromDescription, rfl⟩ := finds_both.mp fromCheck
  obtain ⟨description, _, third, fromEnv, rfl⟩ := finds_both.mp fromDescription
  obtain ⟨env, cwd, fourth, fifth, rfl⟩ := finds_both.mp fromEnv
  simp only [List.forall_mem_append]
  exact ⟨field (by decide) first, field (by decide) second, field (by decide) third,
    field (by decide) fourth, field (by decide) fifth⟩

end Steps

/-- A document of these entries is in order but for its steps, each of which is a map. -/
structure ValidBeside (entries : List (Value × Value)) (steps : List Value) : Prop where
  version : ∃ v, Value.field? entries "apiVersion" = some v ∧ readVersion v = .ok ()
  kind : ∃ v, Value.field? entries "kind" = some v ∧ readKind v = .ok ()
  metadata : ∃ v m, Value.field? entries "metadata" = some v ∧ readMetadata v = .ok m
  spec : ∃ spec list, Value.field? entries "spec" = some (.map spec) ∧
    Value.field? spec "steps" = some list ∧ listItems? list = some steps ∧
    (∀ v, Value.field? spec "format_mode" = some v → ∃ mode, readMode v = .ok mode) ∧
    ∀ v, Value.field? spec "env" = some v → ∃ env, readEnv v = .ok env
  filled : steps ≠ []
  maps : ∀ s ∈ steps, ∃ fields, s = .map fields

section Documents

variable {entries : List (Value × Value)} {steps : List Value}

theorem readField_ok {α : Type} {name : String} {absent : Reading α} {read : Value → Reading α}
    (left : ∃ a, absent = .ok a)
    (each : ∀ v, Value.field? entries name = some v → ∃ a, read v = .ok a) :
    ∃ a, readField entries name absent read = .ok a := by
  cases given : Value.field? entries name with
  | none =>
    obtain ⟨a, rfl⟩ := left
    exact ⟨a, readField_eq_ok.mpr (.inr ⟨given, rfl⟩)⟩
  | some v =>
    obtain ⟨a, read⟩ := each v given
    exact ⟨a, readField_eq_ok.mpr (.inl ⟨v, given, read⟩)⟩

theorem ending_readSteps {list : Value} (items : listItems? list = some steps)
    (filled : steps ≠ []) : (readSteps list).ending = (readItems readStep 0 steps).ending := by
  have bind : readSteps list = readItems readStep 0 steps >>= fun read =>
      if h : read = [] then complain .noSteps else .ok ⟨read, h⟩ := by
    unfold readSteps readList
    rw [items]
  rw [bind]
  cases read : readItems readStep 0 steps with
  | error e => rfl
  | ok all =>
    have left : all ≠ [] := by
      rintro rfl
      exact filled (List.forall₂_nil_right_iff.mp (readItems_eq_ok.mp read))
    show (if h : all = [] then _ else _ : Reading _).ending = _
    rw [dif_neg left]
    rfl

theorem ValidBeside.ending_read (valid : ValidBeside entries steps) :
    (read (.map entries)).ending =
      ((readItems readStep 0 steps).ending.inside (.key "steps")).inside (.key "spec") := by
  obtain ⟨v, given, version⟩ := valid.version
  have version := readRequired_eq_ok (c := .missing).mpr ⟨v, given, version⟩
  obtain ⟨v, given, kind⟩ := valid.kind
  have kind := readRequired_eq_ok (c := .missing).mpr ⟨v, given, kind⟩
  obtain ⟨v, m, given, metadata⟩ := valid.metadata
  have metadata := readRequired_eq_ok (c := .missing).mpr ⟨v, given, metadata⟩
  obtain ⟨spec, list, inner, listed, items, mode, env⟩ := valid.spec
  obtain ⟨mode, moded⟩ := readField_ok ⟨FormatMode.fix, rfl⟩ mode
  obtain ⟨env, layered⟩ := readField_ok ⟨∅, rfl⟩ env
  have whole : read (.map entries) = _ <$> both _ (both _ (both _ _)) := rfl
  have part : readSpec (.map spec) = _ <$> both _ (both _ _) := rfl
  have others : both (.ok mode : Reading FormatMode) (.ok env : Reading Env) = .ok (mode, env) := rfl
  rw [version, kind, metadata, readField_given inner, part, moded, layered, readField_given listed,
    others] at whole
  rw [whole, ← ending_readSteps items valid.filled]
  simp only [ending_map, ending_inside, ending_both_left, ending_both_right]

/-- What is found in a document that is in order but for its steps is what each step finds, seen
from the whole. -/
theorem ValidBeside.finds_iff (valid : ValidBeside entries steps) {all : List Problem} :
    (read (.map entries)).Finds all ↔
      ∃ own, List.Forall₂ (fun s ps => (readStep s).Finds ps) steps own ∧
        all = own.zipIdx.flatMap fun e => e.1.map (inStep e.2) := by
  have outward : ∀ own : List (List Problem),
      ((own.zipIdx.flatMap fun e => e.1.map (Problem.inside (.index e.2))).map
        (Problem.inside (.key "steps"))).map (Problem.inside (.key "spec")) =
        own.zipIdx.flatMap fun e => e.1.map (inStep e.2) := by
    intro own
    simp only [List.map_flatMap, List.map_map]
    rfl
  rw [← finds_ending, valid.ending_read]
  simp only [finds_inside, finds_ending, finds_readItems]
  constructor
  · rintro ⟨_, ⟨_, ⟨own, each, rfl⟩, rfl⟩, rfl⟩
    exact ⟨own, each, outward own⟩
  · rintro ⟨own, each, rfl⟩
    exact ⟨_, ⟨_, ⟨own, each, rfl⟩, rfl⟩, (outward own).symm⟩

theorem ValidBeside.ok_iff (valid : ValidBeside entries steps) :
    (∃ d, read (.map entries) = .ok d) ↔ ∀ s ∈ steps, ∃ d, readStep s = .ok d := by
  rw [← ending_ok, valid.ending_read]
  simp only [inside_eq_ok, ending_ok, exists_readItems_eq_ok]

theorem ValidBeside.breaksDown_iff (valid : ValidBeside entries steps) :
    (read (.map entries)).BreaksDown ↔ ∃ s ∈ steps, (readStep s).BreaksDown := by
  rw [← breaksDown_ending, valid.ending_read, breaksDown_inside, breaksDown_inside,
    breaksDown_ending, breaksDown_readItems]

/-- What is told of the steps is told in their order, each entry with the step's place before its
own. -/
theorem messages_steps {own : List (List Problem)}
    (keyed : ∀ ps ∈ own, ∀ p ∈ ps, Keyed p.place) :
    (own.zipIdx.flatMap fun e => e.1.map (inStep e.2)).map Problem.message =
      own.zipIdx.flatMap fun e => e.1.map (stepEntry e.2) := by
  have each : ∀ e ∈ own.zipIdx,
      (e.1.map (inStep e.2)).map Problem.message = e.1.map (stepEntry e.2) := by
    intro e member
    rw [List.map_map]
    exact List.map_congr_left fun p inner =>
      message_inStep e.2 (keyed e.1 (List.fst_mem_of_mem_zipIdx member) p inner)
  rw [List.map_flatMap, List.flatMap_congr each]

theorem found_at {own : List (List Problem)} {i : Nat} {s : Value}
    (each : List.Forall₂ (fun s qs => (readStep s).Finds qs) steps own) (there : steps[i]? = some s) :
    ∃ qs, own[i]? = some qs ∧ (readStep s).Finds qs := by
  obtain ⟨bound, rfl⟩ := List.getElem?_eq_some_iff.mp there
  have other : i < own.length := each.length_eq ▸ bound
  exact ⟨own[i], List.getElem?_eq_getElem other, each.get bound other⟩

theorem keyed_of_found {own : List (List Problem)}
    (each : List.Forall₂ (fun s qs => (readStep s).Finds qs) steps own)
    (maps : ∀ s ∈ steps, ∃ fields, s = .map fields) : ∀ qs ∈ own, ∀ p ∈ qs, Keyed p.place := by
  induction each with
  | nil => simp
  | cons found _ ih =>
    obtain ⟨⟨fields, rfl⟩, others⟩ := List.forall_mem_cons.mp maps
    exact List.forall_mem_cons.mpr ⟨keyed_of_finds found, ih others⟩

theorem named_iff {own : List (List Problem)} {index : Nat} {ps : List Problem}
    (found : own[index]? = some ps) :
    (∃ entry ∈ own.zipIdx.flatMap fun e => e.1.map (stepEntry e.2), Names entry index) ↔
      ps ≠ [] := by
  simp only [List.mem_flatMap, List.mem_map]
  constructor
  · rintro ⟨_, ⟨⟨qs, i⟩, member, p, inner, rfl⟩, names⟩
    obtain rfl := names_stepEntry.mp names
    rw [List.mem_zipIdx_iff_getElem?, found] at member
    cases member
    exact List.ne_nil_of_mem inner
  · intro some
    obtain ⟨p, inner⟩ := List.exists_mem_of_ne_nil ps some
    exact ⟨_, ⟨(ps, index), List.mem_zipIdx_iff_getElem?.mpr found, p, inner, rfl⟩,
      names_stepEntry.mpr rfl⟩

/-- A document that is in order but for its steps is refused exactly if a step is, and then it is
told of as the steps are: for each in turn its own entries, with the place of the step before the
places in it. So the steps that are named are those that are refused. Nothing is told where a step
breaks down, which has a number with too many digits in it. -/
theorem failing_steps_named (valid : ValidBeside entries steps) :
    ((∃ d, read (.map entries) = .ok d) ↔ ∀ s ∈ steps, ∃ d, readStep s = .ok d) ∧
    ((read (.map entries)).BreaksDown ↔ ∃ s ∈ steps, (readStep s).BreaksDown) ∧
    (∀ s f, readStep s = .error (.fault f) → Overlong s f) ∧
    ((∀ s ∈ steps, ¬ (readStep s).BreaksDown) → (∃ s ∈ steps, ∀ d, readStep s ≠ .ok d) →
      ∃ ps own, read (.map entries) = .error (.problems ps) ∧
        List.Forall₂ (fun s qs => (readStep s).Finds qs) steps own ∧
        Problem.report ps =
          "\n".intercalate (own.zipIdx.flatMap fun e => e.1.map (stepEntry e.2)) ∧
        ∀ i s, steps[i]? = some s →
          ((∃ entry ∈ ps.map Problem.message, Names entry i) ↔ ∀ d, readStep s ≠ .ok d)) := by
  refine ⟨valid.ok_iff, valid.breaksDown_iff, fun s => (readStep_fails s).breaks, ?_⟩
  rintro whole ⟨refused, member, fails⟩
  have unbroken : ¬ (read (.map entries)).BreaksDown := by
    rw [valid.breaksDown_iff]
    rintro ⟨s, there, breaks⟩
    exact whole s there breaks
  obtain ⟨ps, found⟩ := (finds_or_breaksDown _).resolve_right unbroken
  have told : read (.map entries) = .error (.problems ps) := by
    refine found.resolve_left ?_
    rintro ⟨accepted, -⟩
    obtain ⟨d, read⟩ := valid.ok_iff.mp accepted refused member
    exact fails d read
  obtain ⟨own, each, rfl⟩ := valid.finds_iff.mp found
  have entries_told := messages_steps (keyed_of_found each valid.maps)
  refine ⟨_, own, told, each, congrArg ("\n".intercalate ·) entries_told, ?_⟩
  intro i s listed
  obtain ⟨ps, there, own_found⟩ := found_at each listed
  rw [entries_told, named_iff there]
  constructor
  · rintro some d read
    exact some ((finds_ok_iff read).mp own_found)
  · rintro fails rfl
    obtain ⟨d, read⟩ := (readStep_thorough s).finds_nil.mp own_found
    exact fails d read

end Documents

/-- A document whose second step has neither a command nor a text for its variable, and whose third
has no text among its arguments. -/
def faulty : List (Value × Value) :=
  [(.text "apiVersion", .text "buildpipe/v1"), (.text "kind", .text "Pipeline"),
    (.text "metadata", .map [(.text "name", .text "release-2")]),
    (.text "spec", .map [(.text "steps", .list [
      .map [(.text "run", .text "make")],
      .map [(.text "env", .map [(.text "JOBS", .null)])],
      .map [(.text "run", .list [.text "make", .null])]])])]

theorem failing_steps_named_faulty :
    ∃ ps, read (.map faulty) = .error (.problems ps) ∧
      Problem.report ps =
        "  spec.steps[1].run: Field required\n" ++
        "  spec.steps[1].env.JOBS: Input should be a valid string\n" ++
        "  spec.steps[2].run[1]: Input should be a valid string" ∧
      ¬ ∃ entry ∈ ps.map Problem.message, Names entry 0 := by
  have valid : ValidBeside faulty [
      .map [(.text "run", .text "make")],
      .map [(.text "env", .map [(.text "JOBS", .null)])],
      .map [(.text "run", .list [.text "make", .null])]] :=
    { version := ⟨_, rfl, rfl⟩
      kind := ⟨_, rfl, rfl⟩
      metadata := ⟨_, _, rfl, rfl⟩
      spec := ⟨_, _, rfl, rfl, rfl, nofun, nofun⟩
      filled := by simp
      maps := by simp }
  obtain ⟨-, -, -, told⟩ := failing_steps_named valid
  have first : (readStep (.map [(.text "run", .text "make")])).ending = .ok () := rfl
  have second : (readStep (.map [(.text "env", .map [(.text "JOBS", .null)])])).ending =
    .error (.problems [⟨[.key "run"], .missing⟩, ⟨[.key "env", .key "JOBS"], .noText⟩]) := rfl
  have third : (readStep (.map [(.text "run", .list [.text "make", .null])])).ending =
    .error (.problems [⟨[.key "run", .index 1], .noText⟩]) := rfl
  have unbroken : ∀ {s : Value} {r : Reading Unit}, (readStep s).ending = r → ¬ r.BreaksDown →
      ¬ (readStep s).BreaksDown := by
    rintro s r rfl broken
    rwa [← breaksDown_ending]
  have fails : ∀ d, readStep (.map [(.text "run", .list [.text "make", .null])]) ≠ .ok d := by
    intro d read
    rw [read] at third
    cases third
  obtain ⟨ps, own, refused, each, report, named⟩ := told
    (by
      simp only [List.forall_mem_cons]
      exact ⟨unbroken first nofun, unbroken second nofun, unbroken third nofun, nofun⟩)
    ⟨_, .tail _ (.tail _ (.head _)), fails⟩
  simp only [List.forall₂_cons_left_iff, List.forall₂_nil_left_iff] at each
  obtain ⟨_, _, found₁, ⟨_, _, found₂, ⟨_, _, found₃, rfl, rfl⟩, rfl⟩, rfl⟩ := each
  rw [← finds_ending] at found₁ found₂ found₃
  obtain rfl := (finds_ok_iff first).mp found₁
  obtain rfl := (finds_problems_iff second).mp found₂
  obtain rfl := (finds_problems_iff third).mp found₃
  refine ⟨ps, refused, report.trans (by decide +kernel), ?_⟩
  intro names
  obtain ⟨d, read⟩ := ending_ok.mp ⟨_, first⟩
  exact (named 0 _ rfl).mp names d read

end Stepwise.Definition
