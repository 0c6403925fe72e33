import Stepwise.Yaml.Document

/-! Why a document has no value although it follows the grammar. Merging and filling collections
give no fault of their own: they keep the texts of the document's scalars and the kinds of its
nodes, and a fault is always that of a text which has no value of its kind. -/
namespace Stepwise.Yaml

/-- A graph that comes of another by merging: no new texts, and no new kinds but that of texts. -/
structure Graph.Within (g₀ g : Graph) : Prop where
  text : ∀ id text, g.content id = .scalar text → g₀.content id = .scalar text
  kind : ∀ id, g.tag id = g₀.tag id ∨ g.tag id = .str

namespace Graph

variable {g₀ g g' : Graph} {id : Nat}

theorem Within.refl (g : Graph) : Within g g := ⟨fun _ _ h => h, fun _ => .inl rfl⟩

theorem Within.trans (h : Within g₀ g) (h' : Within g g') : Within g₀ g' := by
  refine ⟨fun id text written => h.text id text (h'.text id text written), fun id => ?_⟩
  rcases h'.kind id with same | str
  · rw [same]
    exact h.kind id
  · exact .inr str

theorem getD_setIfInBounds (cell d : Tag × Content) (g : Graph) (id j : Nat) :
    (g.setIfInBounds id cell).getD j d = if id = j ∧ id < g.size then cell else g.getD j d := by
  simp only [Array.getD_eq_getD_getElem?, Array.getElem?_setIfInBounds]
  split
  · rename_i same
    subst same
    split
    · rename_i inside
      simp [inside]
    · rename_i outside
      simp [outside]
  · rename_i apart
    simp [apart]

theorem within_setTag (g : Graph) (id : Nat) : Within g (g.setTag id .str) := by
  constructor
  · intro j text written
    simp only [content, setTag, getD_setIfInBounds] at written ⊢
    split at written
    · rename_i here
      rw [← here.1]
      exact written
    · exact written
  · intro j
    simp only [tag, setTag, getD_setIfInBounds]
    split
    · exact .inr rfl
    · exact .inl rfl

theorem within_setEntries (g : Graph) (id : Nat) (entries : List (Nat × Nat)) :
    Within g (g.setEntries id entries) := by
  constructor
  · intro j text written
    simp only [content, setEntries, getD_setIfInBounds] at written ⊢
    split at written
    · cases written
    · exact written
  · intro j
    simp only [tag, setEntries, getD_setIfInBounds]
    split
    · rename_i here
      exact .inl (by rw [← here.1])
    · exact .inl rfl

theorem within_foldl {α : Type} {f : Graph → α → Graph} (step : ∀ g a, Within g (f g a))
    (l : List α) (g : Graph) : Within g (l.foldl f g) := by
  induction l generalizing g with
  | nil => exact .refl g
  | cons a l ih => exact (step g a).trans (ih (f g a))

theorem within_foldlM {α β : Type} {f : β × Graph → α → Option (β × Graph)}
    (step : ∀ acc a acc', f acc a = some acc' → Within acc.2 acc'.2) {l : List α}
    {acc acc' : β × Graph} (h : l.foldlM f acc = some acc') : Within acc.2 acc'.2 := by
  induction l generalizing acc with
  | nil =>
    cases h
    exact .refl _
  | cons a l ih =>
    obtain ⟨mid, first, rest⟩ := Option.bind_eq_some_iff.mp h
    exact (step _ _ _ first).trans (ih rest)

theorem flattenWith_within {merged : List (Nat × Nat)} {fuel : Nat}
    (h : flattenWith id merged fuel g = some g') : Within g g' := by
  induction fuel generalizing id merged g g' with
  | zero => cases h
  | succ fuel ih =>
    simp only [flattenWith] at h
    split at h
    · cases h
      have named : Within g ((g.entries id).foldl
          (fun g e => if g.tag e.1 = .value then g.setTag e.1 .str else g) g) := by
        apply within_foldl
        intro g e
        split
        · exact within_setTag g e.1
        · exact .refl g
      split
      · exact named
      · exact named.trans (within_setEntries _ _ _)
    · rename_i key source found
      obtain ⟨⟨parts, g₁⟩, merges, rest⟩ := Option.bind_eq_some_iff.mp h
      have step : ∀ acc inner acc',
          addSource (fun inner g => flattenWith inner [] fuel g) acc inner = some acc' →
            Within acc.2 acc'.2 := by
        intro acc inner acc' added
        unfold addSource at added
        split at added
        · obtain ⟨g₂, flattened, rfl⟩ := Option.map_eq_some_iff.mp added
          exact ih flattened
        · cases added
      exact ((within_setEntries g id _).trans (within_foldlM step merges)).trans (ih rest)

theorem textWithin_written {fuel : Nat} {text : String} {own : Bool}
    (h : g.textWithin fuel id = some (text, own)) : ∃ source, g.content source = .scalar text := by
  induction fuel generalizing id own with
  | zero => cases h
  | succ fuel ih =>
    unfold textWithin at h
    split at h
    · rename_i held
      cases h
      exact ⟨id, held⟩
    · split at h
      · obtain ⟨⟨text', own'⟩, found, same⟩ := Option.map_eq_some_iff.mp h
        cases same
        exact ih found
      · cases h
    · cases h

end Graph

/-- A fault that a document has because of one of its nodes: a text that has no value of the kind
that a tag says it is of, or a moment that is no scalar. -/
inductive Unvalued (g : Graph) (f : Fault) : Prop where
  | text {id source : Nat} {text : String} (written : g.content source = .scalar text)
      (none : Scalar.value (g.tag id) text = .error (.fault f))
  | moment {id : Nat} (kind : g.tag id = .timestamp) (fault : f = Graph.noText)

theorem Graph.unvalued_of_scalarValue {g₀ g : Graph} {id : Nat} {f : Fault}
    (within : Within g₀ g) (h : g.scalarValue id = .error (.fault f)) : Unvalued g₀ f := by
  unfold scalarValue at h
  simp only at h
  split at h
  · cases h
  · split at h
    · cases h
    · rename_i text own found
      obtain ⟨source, written⟩ := textWithin_written found
      -- A text has a value, so the kind is one that merging has left.
      have kept : g.tag id ≠ .str → g.tag id = g₀.tag id := fun other =>
        (within.kind id).resolve_right other
      split at h
      · rename_i stamp
        have kind : g.tag id = .timestamp := by
          simp only [Bool.and_eq_true, decide_eq_true_eq] at stamp
          exact stamp.1
        cases h
        exact .moment ((kept (by simp [kind])).symm.trans kind) rfl
      · have other : g.tag id ≠ .str := by
          intro str
          rw [str] at h
          cases h
        rw [kept other] at h
        exact .text (within.text source text written) h

namespace Fill

/-- Filling keeps to a graph: the graph at hand comes of it by merging, and its nodes give all
faults. -/
def Sound (g : Graph) {α : Type} (m : Fill α) : Prop :=
  ∀ s, g.Within s.graph →
    (∀ a s', m s = .ok (a, s') → g.Within s'.graph) ∧ ∀ f, m s = .error (.fault f) → Unvalued g f

section Logic

variable {g : Graph} {α β : Type}

theorem Sound.pure (a : α) : Sound g (pure a : Fill α) := by
  intro s within
  refine ⟨fun b s' h => ?_, fun f h => nomatch h⟩
  cases h
  exact within

theorem Sound.bind {m : Fill α} {k : α → Fill β} (first : Sound g m) (next : ∀ a, Sound g (k a)) :
    Sound g (m >>= k) := by
  intro s within
  obtain ⟨keeps, blames⟩ := first s within
  have run : (m >>= k) s = (m s).bind fun p => k p.1 p.2 := rfl
  rw [run]
  cases ended : m s with
  | error e =>
    refine ⟨fun a s' h => (nomatch h), fun f h => ?_⟩
    exact blames f (by rw [ended, ← Except.error.inj h])
  | ok p => exact next p.1 p.2 (keeps p.1 p.2 ended)

theorem Sound.malformed : Sound g (throw .malformed : Fill α) := by
  intro s _
  refine ⟨fun a s' h => ?_, fun f h => ?_⟩
  · cases h
  · cases h

theorem Sound.lift {o : Outcome α} (blames : ∀ f, o = .error (.fault f) → Unvalued g f) :
    Sound g (liftM o : Fill α) := by
  intro s within
  cases ended : o with
  | error e =>
    refine ⟨fun a s' h => (nomatch h), fun f h => ?_⟩
    exact blames f (by rw [ended, ← Except.error.inj h])
  | ok a =>
    refine ⟨fun b s' h => ?_, fun f h => nomatch h⟩
    cases h
    exact within

theorem Sound.ofGet {k : Progress → Fill β} (next : ∀ s, g.Within s.graph → Sound g (k s)) :
    Sound g (get >>= k) := by
  intro s within
  exact next s within s within

theorem Sound.set {s : Progress} (within : g.Within s.graph) : Sound g (set s : Fill Unit) := by
  intro _ _
  refine ⟨fun a s' h => ?_, fun f h => nomatch h⟩
  cases h
  exact within

theorem Sound.modify {f : Progress → Progress} (same : ∀ s, (f s).graph = s.graph) :
    Sound g (modify f : Fill Unit) := by
  intro s within
  refine ⟨fun a s' h => ?_, fun f h => nomatch h⟩
  cases h
  rwa [same]

theorem Sound.forM {f : α → Fill Unit} (each : ∀ a, Sound g (f a)) (l : List α) :
    Sound g (l.forM f) := by
  induction l with
  | nil => exact .pure ()
  | cons a l ih => exact .bind (each a) fun _ => ih

theorem Sound.mapM {f : α → Fill β} (each : ∀ a, Sound g (f a)) (l : List α) :
    Sound g (l.mapM f) := by
  induction l with
  | nil => exact .pure []
  | cons a l ih =>
    rw [List.mapM_cons]
    exact .bind (each a) fun b => .bind ih fun bs => .pure (b :: bs)

theorem Sound.foldlM {f : β → α → Fill β} (each : ∀ b a, Sound g (f b a)) (l : List α) (b : β) :
    Sound g (l.foldlM f b) := by
  induction l generalizing b with
  | nil => exact .pure b
  | cons a l ih => exact .bind (each b a) ih

end Logic

section Steps

variable {g : Graph} (id : Nat)

theorem sound_isLater : Sound g (isLater id) := .ofGet fun _ _ => .pure _

theorem sound_scalar : Sound g (scalar id) := by
  apply Sound.ofGet
  intro s within
  split
  · exact .pure _
  · refine .bind (.lift fun f broken => ?_) fun k => .bind (.set within) fun _ => .pure k
    refine Graph.unvalued_of_scalarValue within (?_ : s.graph.scalarValue id = _)
    unfold Known.ofNode at broken
    cases found : s.graph.scalarValue id with
    | error e =>
      rw [found] at broken
      cases broken
      rfl
    | ok v =>
      rw [found] at broken
      cases broken

theorem sound_meet : Sound g (meet id) := by
  refine .bind (sound_isLater id) fun later => ?_
  split
  · apply Sound.modify
    intro s
    split <;> rfl
  · exact .bind (sound_scalar id) fun _ => .pure ()

theorem sound_key : Sound g (key id) := by
  refine .bind (sound_isLater id) fun later => ?_
  split
  · exact .malformed
  · exact sound_scalar id

theorem sound_entries : Sound g (entries id) := by
  apply Sound.ofGet
  intro s within
  split
  · exact .malformed
  · rename_i g' flattened
    have merged : g.Within g' := by
      split at flattened
      · exact within.trans (Graph.flattenWith_within flattened)
      · cases flattened
    refine .bind (.set merged) fun _ => .foldlM (fun acc e => ?_) _ _
    exact .bind (sound_key e.1) fun k => .bind (sound_meet e.2) fun _ => .pure _

theorem sound_entry : Sound g (entry id) := by
  apply Sound.ofGet
  intro s within
  split
  · exact .bind (sound_meet _) fun _ => .bind (sound_meet _) fun _ => .pure _
  · exact .malformed

theorem sound_filling : Sound g (filling id) := by
  apply Sound.ofGet
  intro s within
  dsimp only
  split
  · exact .bind (.forM sound_meet _) fun _ => .pure _
  · exact .bind (.mapM sound_entry _) fun _ => .pure _
  · exact .bind (.mapM sound_entry _) fun _ => .pure _
  · exact .bind (sound_entries id) fun _ => .pure _
  · exact .bind (sound_entries id) fun _ => .pure _
  · exact .malformed

theorem sound_fillAll (fuel : Nat) : Sound g (fillAll fuel) := by
  induction fuel with
  | zero => exact .malformed
  | succ fuel ih =>
    apply Sound.ofGet
    intro s within
    split
    · exact .pure ()
    · refine .bind (.modify fun _ => rfl) fun _ => .bind (.forM (fun id => ?_) _) fun _ => ih
      exact .bind (sound_filling id) fun _ => .modify fun _ => rfl

end Steps

theorem unvalued_of_document {root : Node} {f : Fault}
    (h : document root = .error (.fault f)) : Unvalued root.graph f := by
  have sound : Sound root.graph (below root) := .bind (sound_meet root.id) fun _ => sound_fillAll _
  unfold document at h
  cases ended : (below root).run (start root.graph) with
  | ok p =>
    rw [ended] at h
    cases h
  | error e =>
    rw [ended] at h
    cases h
    exact (sound (start root.graph) (.refl _)).2 f ended

end Fill

/-- Why a text that can be written down has no value: it asks for what cannot be had, or a node of
the document has no value. -/
inductive Valueless (cs : List Char) : Fault → Prop where
  | text {x : Excess} (unread : Node.ofText cs = .error (.excess x)) : Valueless cs x.fault
  | node {root : Node} {f : Fault} (document : Node.ofText cs = .ok (some root))
      (unvalued : Unvalued root.graph f) : Valueless cs f

theorem valueless_of_load {cs : List Char} {f : Fault} (h : load cs = .error (.fault f)) :
    Valueless cs f := by
  unfold load at h
  split at h
  · cases h
  · rename_i x unread
    cases h
    exact .text unread
  · cases h
  · rename_i root document
    cases ended : Fill.document root with
    | error e =>
      rw [ended] at h
      cases h
      exact .node document (Fill.unvalued_of_document ended)
    | ok s =>
      rw [ended] at h
      cases h

end Stepwise.Yaml
