import SqlTemplate.Proofs.Render.Caching
import SqlTemplate.Proofs.Render.Compatible

/-!
# States that are alike

Two states are alike if only their memories differ, and their caches serve the evaluator alike. From
such states all operations go alike, and so does what is put together from them.
-/

namespace SqlTemplate

/-- Two states with one evaluator mean the same to every rendering: only their memories differ, and
their caches serve the evaluator alike. -/
structure RenderState.Alike (evaluator : Evaluator) (s t : RenderState) : Prop where
  bindings : s.bindings = t.bindings
  nextId : s.nextId = t.nextId
  first : s.evaluator = evaluator
  second : t.evaluator = evaluator
  caches : evaluator.Agree s.memory.cache t.memory.cache

/-- A state that is like another one is like itself. -/
theorem RenderState.Alike.left {evaluator : Evaluator} {s t : RenderState}
    (h : s.Alike evaluator t) : s.Alike evaluator s :=
  ⟨rfl, rfl, h.first, h.first, h.caches.left⟩

/-- Two outcomes with the same result and the same chunks, in states that are alike. -/
structure Outcome.Alike {α : Type} (evaluator : Evaluator) (o p : Outcome α) : Prop where
  result : p.result = o.result
  chunks : p.chunks = o.chunks
  state : o.state.Alike evaluator p.state

namespace Render

variable {α β : Type}

/-- From states that are alike two renderings come to outcomes that are alike. -/
def Alike ⦃α : Type⦄ (x y : Render α) : Prop :=
  ∀ ⦃evaluator : Evaluator⦄ ⦃s t : RenderState⦄, s.Alike evaluator t →
    Outcome.Alike evaluator (x s) (y t)

/-- Renderings go alike one after the other. -/
theorem Alike.bind {x y : Render α} {f g : α → Render β} (h : Alike x y)
    (hnext : ∀ a, Alike (f a) (g a)) : Alike (x >>= f) (y >>= g) := by
  intro evaluator s t halike
  have hfirst := h halike
  cases hx : x s with
  | mk result c u =>
    cases hy : y t with
    | mk other d v =>
      rw [hx, hy] at hfirst
      obtain ⟨hresult, hchunks, hstate⟩ := hfirst
      dsimp only at hresult hchunks hstate
      subst hresult hchunks
      cases other with
      | error e =>
        rw [bind_of_error hx, bind_of_error hy]
        exact ⟨rfl, rfl, hstate⟩
      | ok a =>
        obtain ⟨hresult, hchunks, hreached⟩ := hnext a hstate
        rw [bind_of_ok hx, bind_of_ok hy]
        exact ⟨hresult, congrArg (d ++ ·) hchunks, hreached⟩

/-- A layer gets the same chunks. -/
theorem Alike.within {x y : Render α} (h : Alike x y) (layer : Layer) :
    Alike (Render.within layer x) (Render.within layer y) := by
  intro evaluator s t halike
  obtain ⟨hresult, hchunks, hstate⟩ := h halike
  refine ⟨?_, ?_, hstate⟩
  · change (y t).result.map (·, (layer.feedAll (y t).chunks).1) =
      (x s).result.map (·, (layer.feedAll (x s).chunks).1)
    rw [hresult, hchunks]
  · change (layer.feedAll (y t).chunks).2 = (layer.feedAll (x s).chunks).2
    rw [hchunks]

/-- The evaluator is asked alike if the bindings settle the answer of the standard one. -/
theorem alike_ask {question : Evaluator → Bindings → Expr.Cache → Reply α}
    {f : Bindings → Except Error α} (hsettles : Evaluator.Settles (question .standard) f) :
    Alike (ask question) (ask question) := by
  intro evaluator s t h
  obtain ⟨hresult, hcaches⟩ := h.caches.ask hsettles s.bindings
  refine ⟨?_, rfl, h.bindings, h.nextId, h.first, h.second, ?_⟩
  · change (question t.evaluator t.bindings t.memory.cache).result =
      (question s.evaluator s.bindings s.memory.cache).result
    rw [h.first, h.second, ← h.bindings]
    exact hresult
  · change evaluator.Agree (question s.evaluator s.bindings s.memory.cache).cache
      (question t.evaluator t.bindings t.memory.cache).cache
    rw [h.first, h.second, ← h.bindings]
    exact hcaches

/-- Events are no part of what makes states alike. -/
theorem alike_record (event : Event) : Alike (record event) (record event) :=
  fun _ _ _ h => ⟨rfl, rfl, h.bindings, h.nextId, h.first, h.second, h.caches⟩

/-- Every operation goes alike from states that are alike. -/
theorem compatible_alike : Compatible Alike where
  pure _ := fun _ _ _ h => ⟨rfl, rfl, h⟩
  bind h hnext := h.bind hnext
  fail _ := fun _ _ _ h => ⟨rfl, rfl, h⟩
  emit _ := fun _ _ _ h => ⟨rfl, rfl, h⟩
  bindName name value := fun _ _ _ h =>
    ⟨rfl, rfl, congrArg (Bindings.insert · name value) h.bindings, h.nextId, h.first, h.second,
      h.caches⟩
  unbindName name := fun _ _ _ h =>
    ⟨rfl, rfl, congrArg (Bindings.remove · name) h.bindings, h.nextId, h.first, h.second, h.caches⟩
  freshId := fun _ _ _ h => ⟨congrArg Except.ok h.nextId.symm, rfl,
    h.bindings, congrArg (· + 1) h.nextId, h.first, h.second, h.caches⟩
  evaluate source := (alike_record _).bind fun _ => alike_ask (Evaluator.settles_value source)
  evaluateTest source := (alike_record _).bind fun _ => alike_ask (Evaluator.settles_test source)
  evaluateLoop source nullable :=
    (alike_record _).bind fun _ => alike_ask (Evaluator.settles_elements source nullable)
  within layer _ _ h := h.within layer

/-- Texts are spliced in alike. -/
theorem alike_splice (filter : Option Filter) (source : Text) :
    Alike (Node.splice filter source) (Node.splice filter source) := by
  refine (compatible_alike.evaluate source).bind fun value => ?_
  cases filter with
  | none => exact (alike_record _).bind fun _ => compatible_alike.pure _
  | some filter =>
    dsimp only
    split
    · exact (alike_record _).bind fun _ => compatible_alike.pure _
    · exact (alike_record _).bind fun _ => compatible_alike.fail _

end Render

end SqlTemplate
