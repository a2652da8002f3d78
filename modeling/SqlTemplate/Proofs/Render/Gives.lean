import SqlTemplate.Node.Render

/-!
# Successful renderings

What a rendering gives is a result, chunks and a state. A compound rendering that succeeds is taken
apart into renderings that succeed, each from the state that the one before it ends in.
-/

namespace SqlTemplate.Render

variable {α β : Type}

/-- From `s` the rendering succeeds with `a`, yields `chunks` and ends in `t`. -/
def Gives (x : Render α) (s : RenderState) (a : α) (chunks : List Text) (t : RenderState) : Prop :=
  x s = ⟨.ok a, chunks, t⟩

/-- A rendering that has a result gives it. -/
theorem gives_of_toOption {x : Render α} {s : RenderState} {a : α}
    (h : (x s).result.toOption = some a) : x.Gives s a (x s).chunks (x s).state := by
  unfold Gives
  cases hx : x s with
  | mk result chunks t =>
    rw [hx] at h
    cases result with
    | error e => cases h
    | ok b =>
      cases h
      rfl

/-- A bare result comes with no chunks and leaves the state. -/
theorem gives_pure {a b : α} {s t : RenderState} {chunks : List Text} :
    (pure a : Render α).Gives s b chunks t ↔ a = b ∧ chunks = [] ∧ t = s := by
  rw [Gives, pure_apply]
  constructor
  · intro h
    cases h
    exact ⟨rfl, rfl, rfl⟩
  · rintro ⟨rfl, rfl, rfl⟩
    rfl

/-- Two renderings succeed one after the other when the second one succeeds with the result of the
first and from its state. -/
theorem gives_bind {x : Render α} {f : α → Render β} {s t : RenderState} {b : β}
    {chunks : List Text} :
    (x >>= f).Gives s b chunks t ↔
      ∃ a c u d, x.Gives s a c u ∧ (f a).Gives u b d t ∧ chunks = c ++ d := by
  unfold Gives
  cases hx : x s with
  | mk result c u =>
    cases result with
    | error e =>
      rw [bind_of_error hx]
      constructor
      · intro h
        cases h
      · rintro ⟨_, _, _, _, h, _⟩
        cases h
    | ok a =>
      rw [bind_of_ok hx]
      constructor
      · intro h
        cases hf : f a u with
        | mk result' d t' =>
          rw [hf] at h
          cases h
          exact ⟨a, c, u, d, rfl, hf, rfl⟩
      · rintro ⟨_, _, _, _, h, hf, rfl⟩
        cases h
        rw [hf]

/-- One chunk is yielded. -/
theorem gives_emit {chunk : Text} {s t : RenderState} {u : Unit} {chunks : List Text} :
    (emit chunk).Gives s u chunks t ↔ chunks = [chunk] ∧ t = s := by
  unfold Gives emit
  constructor
  · intro h
    cases h
    exact ⟨rfl, rfl⟩
  · rintro ⟨rfl, rfl⟩
    rfl

/-- The state is changed and nothing yielded. -/
theorem gives_update {change : RenderState → RenderState} {s t : RenderState} {u : Unit}
    {chunks : List Text} : (update change).Gives s u chunks t ↔ chunks = [] ∧ t = change s := by
  unfold Gives update
  constructor
  · intro h
    cases h
    exact ⟨rfl, rfl⟩
  · rintro ⟨rfl, rfl⟩
    rfl

/-- The next number is taken. -/
theorem gives_freshId {s t : RenderState} {id : Nat} {chunks : List Text} :
    freshId.Gives s id chunks t ↔
      id = s.nextId ∧ chunks = [] ∧ t = { s with nextId := s.nextId + 1 } := by
  unfold Gives freshId
  constructor
  · intro h
    cases h
    exact ⟨rfl, rfl, rfl⟩
  · rintro ⟨rfl, rfl, rfl⟩
    rfl

/-- The chunks of a rendering within a layer are those that the layer passes on. -/
theorem gives_within {layer last : Layer} {inner : Render α} {s t : RenderState} {a : α}
    {chunks : List Text} :
    (within layer inner).Gives s (a, last) chunks t ↔
      ∃ inside, inner.Gives s a inside t ∧ layer.feedAll inside = (last, chunks) := by
  unfold Gives within
  cases h : inner s with
  | mk result inside u =>
    cases result with
    | error e =>
      constructor
      · intro hfail
        cases hfail
      · rintro ⟨_, hfail, _⟩
        cases hfail
    | ok b =>
      constructor
      · intro hgives
        cases hgives
        exact ⟨inside, rfl, rfl⟩
      · rintro ⟨_, hgives, hfeed⟩
        cases hgives
        simp [hfeed, Except.map]

/-- Success or failure, the rendering yields nothing and changes the memory only. -/
def Quiet (x : Render α) : Prop :=
  ∀ s, ∃ result memory, x s = ⟨result, [], { s with memory }⟩

/-- A quiet rendering that succeeds leaves bindings and numbers alone. -/
theorem Quiet.of_gives {x : Render α} (hx : x.Quiet) {s t : RenderState} {a : α}
    {chunks : List Text} (h : x.Gives s a chunks t) :
    chunks = [] ∧ ∃ memory, t = { s with memory } := by
  obtain ⟨result, memory, hquiet⟩ := hx s
  rw [Gives, hquiet] at h
  cases h
  exact ⟨rfl, memory, rfl⟩

/-- A quiet rendering takes no numbers, so it keeps two states level. -/
theorem Quiet.nextId_eq {x : Render α} (hx : x.Quiet) {s₁ s₂ t₁ t₂ : RenderState} {a₁ a₂ : α}
    {chunks₁ chunks₂ : List Text} (h₁ : x.Gives s₁ a₁ chunks₁ t₁) (h₂ : x.Gives s₂ a₂ chunks₂ t₂)
    (hid : s₁.nextId = s₂.nextId) : t₁.nextId = t₂.nextId := by
  obtain ⟨-, _, rfl⟩ := hx.of_gives h₁
  obtain ⟨-, _, rfl⟩ := hx.of_gives h₂
  exact hid

/-- A bare result is quiet. -/
theorem quiet_pure (a : α) : (pure a : Render α).Quiet := fun s => ⟨.ok a, s.memory, rfl⟩

/-- A failure is quiet. -/
theorem quiet_fail (e : Error) : (fail e : Render α).Quiet := fun s => ⟨.error e, s.memory, rfl⟩

/-- An event goes to the memory. -/
theorem quiet_record (event : Event) : (record event).Quiet := fun _ => ⟨.ok (), _, rfl⟩

/-- What an evaluator leaves goes to the memory. -/
theorem quiet_ask (question : Evaluator → Bindings → Expr.Cache → Reply α) :
    (ask question).Quiet := fun _ => ⟨_, _, rfl⟩

/-- Quiet renderings one after another are quiet. -/
theorem Quiet.bind {x : Render α} {f : α → Render β} (hx : x.Quiet) (hf : ∀ a, (f a).Quiet) :
    (x >>= f).Quiet := by
  intro s
  obtain ⟨result, memory, h⟩ := hx s
  cases result with
  | error e => exact ⟨.error e, memory, bind_of_error h⟩
  | ok a =>
    obtain ⟨result, memory', h'⟩ := hf a { s with memory }
    refine ⟨result, memory', ?_⟩
    rw [bind_of_ok h, h']
    rfl

/-- Evaluation is quiet: no expression has an effect on the statement. -/
theorem quiet_evaluate (source : Text) : (evaluate source).Quiet :=
  (quiet_record _).bind fun _ => quiet_ask _

/-- Evaluation of a condition is quiet. -/
theorem quiet_evaluateTest (source : Text) : (evaluateTest source).Quiet :=
  (quiet_record _).bind fun _ => quiet_ask _

/-- Evaluation of a collection is quiet. -/
theorem quiet_evaluateLoop (source : Text) (nullable : Bool) :
    (evaluateLoop source nullable).Quiet :=
  (quiet_record _).bind fun _ => quiet_ask _

/-- Quiet renderings for the members of a list are quiet. -/
theorem Quiet.mapM {f : α → Render β} (hf : ∀ a, (f a).Quiet) (xs : List α) :
    (xs.mapM f).Quiet := by
  induction xs with
  | nil =>
    rw [List.mapM_nil]
    exact quiet_pure []
  | cons x xs ih =>
    rw [List.mapM_cons]
    exact (hf x).bind fun _ => ih.bind fun _ => quiet_pure _

/-- A scan with quiet handling is quiet. -/
theorem Quiet.scan {handle : Text → Render Text} (h : ∀ body, (handle body).Quiet) (d : Delimiters)
    (text : Text) : (d.scan handle text).Quiet := by
  refine (Quiet.mapM (fun segment => ?_) _).bind fun _ => quiet_pure _
  cases segment with
  | literal text => exact quiet_pure text
  | escapedOpening => exact quiet_pure d.opening
  | token body => exact h _

/-- The text of an expression comes without any chunk. -/
theorem quiet_splice (filter : Option Filter) (source : Text) :
    (Node.splice filter source).Quiet := by
  refine (quiet_evaluate source).bind fun value => ?_
  cases filter with
  | none => exact (quiet_record _).bind fun _ => quiet_pure _
  | some filter =>
    dsimp only
    split
    · exact (quiet_record _).bind fun _ => quiet_pure _
    · exact (quiet_record _).bind fun _ => quiet_fail _

end SqlTemplate.Render
