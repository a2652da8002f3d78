import SqlTemplate.Proofs.Render.Alike
import SqlTemplate.Proofs.Render.Splicing

/-!
# Rendering under a filter

A filter only looks on: as long as it accepts the texts that are spliced in, a rendering goes as it
would without it, and it ends at the first text that is not accepted.
-/

namespace SqlTemplate

namespace Filter

variable {α β : Type} (filter : Filter)

/-- What becomes of a result if the filter sees some texts first. The first text that it does not
accept is an error. -/
def check (texts : List Text) (result : Except Error α) : Except Error α :=
  match texts.find? fun text => !filter.accepts text with
  | some text => .error (.rejected text filter.pattern)
  | none => result

/-- The filter has nothing against texts that it accepts. -/
theorem check_of_accepts {texts : List Text} (h : ∀ text ∈ texts, filter.accepts text = true)
    (result : Except Error α) : filter.check texts result = result := by
  have hnone : (texts.find? fun text => !filter.accepts text) = none :=
    List.find?_eq_none.mpr fun text htext => by simp [h text htext]
  rw [check, hnone]

/-- The first text that is not accepted is an error, whatever the result is. -/
theorem check_of_find? {texts : List Text} {text : Text}
    (h : texts.find? (fun text => !filter.accepts text) = some text) (result : Except Error α) :
    filter.check texts result = .error (.rejected text filter.pattern) := by
  rw [check, h]

/-- Either all texts are accepted, or there is a first one that is not. -/
theorem accepts_or_find? (texts : List Text) :
    (∀ text ∈ texts, filter.accepts text = true) ∨
      ∃ text ∈ texts, filter.accepts text = false ∧
        texts.find? (fun text => !filter.accepts text) = some text := by
  cases hfind : texts.find? fun text => !filter.accepts text with
  | none =>
    left
    intro text htext
    simpa using List.find?_eq_none.mp hfind text htext
  | some text =>
    exact .inr ⟨text, List.mem_of_find?_eq_some hfind, by simpa using List.find?_some hfind, rfl⟩

/-- Texts are checked from first to last. -/
theorem check_append (first second : List Text) (result : Except Error α) :
    filter.check (first ++ second) result = filter.check first (filter.check second result) := by
  rcases filter.accepts_or_find? first with h | ⟨text, _, _, hfind⟩
  · rw [filter.check_of_accepts h, check, check, List.find?_append,
      List.find?_eq_none.mpr fun text htext => by simp [h text htext], Option.none_or]
  · rw [filter.check_of_find? hfind]
    apply filter.check_of_find?
    rw [List.find?_append, hfind, Option.some_or]

/-- There is a result exactly when there is one without the filter and all texts are accepted. -/
theorem check_eq_ok {texts : List Text} {result : Except Error α} {a : α} :
    filter.check texts result = .ok a ↔
      result = .ok a ∧ ∀ text ∈ texts, filter.accepts text = true := by
  rcases filter.accepts_or_find? texts with h | ⟨text, htext, hfalse, hfind⟩
  · rw [filter.check_of_accepts h]
    exact ⟨fun hok => ⟨hok, h⟩, And.left⟩
  · rw [filter.check_of_find? hfind]
    constructor
    · intro herror
      cases herror
    · rintro ⟨-, h⟩
      rw [h text htext] at hfalse
      cases hfalse

end Filter

/-- The second outcome is what a filter makes of the first one, in which some texts are spliced in
since `earlier`: the same as long as it accepts them. -/
structure Outcome.Guarded {α : Type} (filter : Filter) (evaluator : Evaluator) (earlier : Memory)
    (texts : List Text) (o p : Outcome α) : Prop where
  splices : earlier.Splices texts o.state.memory
  left : o.state.Alike evaluator o.state
  result : p.result = filter.check texts o.result
  chunks : (∀ text ∈ texts, filter.accepts text = true) → p.chunks = o.chunks
  state : (∀ text ∈ texts, filter.accepts text = true) → o.state.Alike evaluator p.state

namespace Render

variable {α β : Type} {filter : Filter}

/-- From states that are alike the second rendering comes to what the filter makes of the first. -/
def GuardedBy (filter : Filter) ⦃α : Type⦄ (x y : Render α) : Prop :=
  ∀ ⦃evaluator : Evaluator⦄ ⦃s t : RenderState⦄, s.Alike evaluator t →
    ∃ texts, Outcome.Guarded filter evaluator s.memory texts (x s) (y t)

/-- A rendering that splices nothing in, and that goes alike from states that are alike, needs no
guard. -/
theorem guardedBy_of_alike {x : Render α} (hnothing : x.SplicesNothing) (h : Alike x x) :
    GuardedBy filter x x := by
  intro evaluator s t halike
  obtain ⟨hresult, hchunks, hstate⟩ := h halike
  exact ⟨[], hnothing s, hstate.left, hresult.trans (filter.check_of_accepts (by simp) _).symm,
    fun _ => hchunks, fun _ => hstate⟩

/-- An expression has no text until it is spliced in. -/
theorem guardedBy_evaluate (source : Text) :
    GuardedBy filter (evaluate source) (evaluate source) :=
  guardedBy_of_alike (splicesNothing_evaluate source) (compatible_alike.evaluate source)

/-- Guarded renderings are guarded one after the other. -/
theorem GuardedBy.bind {x y : Render α} {f g : α → Render β} (h : GuardedBy filter x y)
    (hnext : ∀ a, GuardedBy filter (f a) (g a)) : GuardedBy filter (x >>= f) (y >>= g) := by
  intro evaluator s t halike
  obtain ⟨texts, hfirst⟩ := h halike
  cases hx : x s with
  | mk result c u =>
    cases hy : y t with
    | mk other d v =>
      rw [hx, hy] at hfirst
      obtain ⟨hsplices, hleft, hresult, hchunks, hstate⟩ := hfirst
      dsimp only at hsplices hleft hresult hchunks hstate
      cases result with
      | error e =>
        -- The rendering ends here, with its own error or with that of the filter.
        refine ⟨texts, ?_⟩
        rw [bind_of_error hx]
        rcases filter.accepts_or_find? texts with haccepts | ⟨text, -, -, hfind⟩
        · rw [filter.check_of_accepts haccepts] at hresult
          subst hresult
          rw [bind_of_error hy]
          exact ⟨hsplices, hleft, (filter.check_of_accepts haccepts _).symm, hchunks, hstate⟩
        · rw [filter.check_of_find? hfind] at hresult
          subst hresult
          rw [bind_of_error hy]
          exact ⟨hsplices, hleft, (filter.check_of_find? hfind _).symm, hchunks, hstate⟩
      | ok a =>
        rw [bind_of_ok hx]
        rcases filter.accepts_or_find? texts with haccepts | ⟨text, htext, hfalse, hfind⟩
        · rw [filter.check_of_accepts haccepts] at hresult
          subst hresult
          rw [bind_of_ok hy]
          obtain ⟨more, hsecond⟩ := hnext a (hstate haccepts)
          refine ⟨texts ++ more, hsplices.trans hsecond.splices, hsecond.left, ?_,
            fun hall => ?_, fun hall => ?_⟩
          · rw [filter.check_append, filter.check_of_accepts haccepts]
            exact hsecond.result
          · rw [hchunks haccepts, hsecond.chunks fun text ht => hall text (by simp [ht])]
          · exact hsecond.state fun text ht => hall text (by simp [ht])
        · -- Without the filter the rendering goes on, and more texts may be spliced in.
          rw [filter.check_of_find? hfind] at hresult
          subst hresult
          rw [bind_of_error hy]
          obtain ⟨more, hsecond⟩ := hnext a hleft
          have hno : ¬∀ other ∈ texts ++ more, filter.accepts other = true := fun hall => by
            rw [hall text (by simp [htext])] at hfalse
            cases hfalse
          refine ⟨texts ++ more, hsplices.trans hsecond.splices, hsecond.left, ?_,
            fun hall => absurd hall hno, fun hall => absurd hall hno⟩
          rw [filter.check_append, filter.check_of_find? hfind]

/-- A layer does not see the filter. -/
theorem GuardedBy.within {x y : Render α} (h : GuardedBy filter x y) (layer : Layer) :
    GuardedBy filter (within layer x) (within layer y) := by
  intro evaluator s t halike
  obtain ⟨texts, hinside⟩ := h halike
  refine ⟨texts, hinside.splices, hinside.left, ?_, fun haccepts => ?_, hinside.state⟩
  · change (y t).result.map (·, (layer.feedAll (y t).chunks).1) =
      filter.check texts ((x s).result.map (·, (layer.feedAll (x s).chunks).1))
    rw [hinside.result]
    rcases filter.accepts_or_find? texts with haccepts | ⟨text, -, -, hfind⟩
    · rw [hinside.chunks haccepts, filter.check_of_accepts haccepts,
        filter.check_of_accepts haccepts]
    · rw [filter.check_of_find? hfind, filter.check_of_find? hfind]
      rfl
  · change (layer.feedAll (y t).chunks).2 = (layer.feedAll (x s).chunks).2
    rw [hinside.chunks haccepts]

/-- Every operation but splicing is what it is without the filter. -/
theorem compatible_guardedBy (filter : Filter) : Compatible (GuardedBy filter) where
  pure a := guardedBy_of_alike (splicesNothing_pure a) (compatible_alike.pure a)
  bind h hnext := h.bind hnext
  fail e := guardedBy_of_alike (splicesNothing_fail e) (compatible_alike.fail e)
  emit chunk := guardedBy_of_alike (fun _ => .of_events_eq rfl) (compatible_alike.emit chunk)
  bindName name value :=
    guardedBy_of_alike (fun _ => .of_events_eq rfl) (compatible_alike.bindName name value)
  unbindName name :=
    guardedBy_of_alike (fun _ => .of_events_eq rfl) (compatible_alike.unbindName name)
  freshId := guardedBy_of_alike (fun _ => .of_events_eq rfl) compatible_alike.freshId
  evaluate source := guardedBy_evaluate source
  evaluateTest source :=
    guardedBy_of_alike (splicesNothing_evaluateTest source) (compatible_alike.evaluateTest source)
  evaluateLoop source nullable := guardedBy_of_alike (splicesNothing_evaluateLoop source nullable)
    (compatible_alike.evaluateLoop source nullable)
  within layer _ _ h := h.within layer

/-- A text is spliced in under the guard of the filter. -/
theorem guardedBy_splice (filter : Filter) (source : Text) :
    GuardedBy filter (Node.splice none source) (Node.splice (some filter) source) := by
  refine (guardedBy_evaluate source).bind fun value evaluator s t h => ⟨[value.toSql], ?_⟩
  have hsplices : s.memory.Splices [value.toSql]
      { s.memory with events := s.memory.events ++ [.spliced value.toSql] } := ⟨[_], rfl, rfl⟩
  have hreached := (alike_record (.spliced value.toSql) h).state
  cases haccepts : filter.accepts value.toSql with
  | true =>
    have hall : ∀ text ∈ [value.toSql], filter.accepts text = true := by simpa using haccepts
    dsimp only
    rw [if_pos haccepts]
    exact ⟨hsplices, hreached.left, (filter.check_of_accepts hall _).symm, fun _ => rfl,
      fun _ => hreached⟩
  | false =>
    have hfind : [value.toSql].find? (fun text => !filter.accepts text) = some value.toSql := by
      simp [haccepts]
    have hno : ¬∀ text ∈ [value.toSql], filter.accepts text = true := by simpa using haccepts
    dsimp only
    rw [if_neg (by simp [haccepts])]
    exact ⟨hsplices, hreached.left, (filter.check_of_find? hfind _).symm,
      fun hall => absurd hall hno, fun hall => absurd hall hno⟩

end Render

end SqlTemplate
