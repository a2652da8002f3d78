import SqlTemplate.Proofs.Render.Gives

/-!
# Texts that are spliced in

The events of a rendering tell which texts have been spliced into a statement, in order. Evaluation
alone adds no such text: only a text that the filter has let pass does.
-/

namespace SqlTemplate

/-- The text that is spliced in by an event, if it is one of that kind. -/
def Event.spliced? : Event → Option Text
  | .spliced text => some text
  | _ => none

/-- The texts spliced in between an earlier memory and a later one, in order. -/
def Memory.splicedSince (earlier later : Memory) : List Text :=
  (later.events.drop earlier.events.length).filterMap Event.spliced?

/-- The later memory has all the events of the earlier one, and between them the given texts are
spliced in. -/
def Memory.Splices (earlier : Memory) (texts : List Text) (later : Memory) : Prop :=
  ∃ events, later.events = earlier.events ++ events ∧ events.filterMap Event.spliced? = texts

namespace Memory.Splices

variable {first second third : Memory} {texts more : List Text}

/-- Without new events nothing is spliced in. -/
theorem of_events_eq (h : second.events = first.events) : first.Splices [] second :=
  ⟨[], by simp [h], rfl⟩

/-- Texts that are spliced in later stand behind the earlier ones. -/
theorem trans (h : first.Splices texts second) (hmore : second.Splices more third) :
    first.Splices (texts ++ more) third := by
  obtain ⟨events, hevents, rfl⟩ := h
  obtain ⟨later, hlater, rfl⟩ := hmore
  exact ⟨events ++ later, by rw [hlater, hevents, List.append_assoc], List.filterMap_append⟩

/-- The texts that are spliced in can be read off the events. -/
theorem splicedSince_eq (h : first.Splices texts second) : first.splicedSince second = texts := by
  obtain ⟨events, hevents, rfl⟩ := h
  rw [splicedSince, hevents, List.drop_left]

end Memory.Splices

namespace Render

variable {α β : Type}

/-- Success or failure, the rendering splices nothing in. -/
def SplicesNothing (x : Render α) : Prop :=
  ∀ s : RenderState, s.memory.Splices [] (x s).state.memory

/-- A bare result splices nothing in. -/
theorem splicesNothing_pure (a : α) : (pure a : Render α).SplicesNothing := fun _ =>
  .of_events_eq rfl

/-- A failure splices nothing in. -/
theorem splicesNothing_fail (e : Error) : (fail e : Render α).SplicesNothing := fun _ =>
  .of_events_eq rfl

/-- Other events splice nothing in. -/
theorem splicesNothing_record {event : Event} (h : event.spliced? = none) :
    (record event).SplicesNothing := fun _ =>
  ⟨[event], rfl, by simp [h]⟩

/-- Two renderings that splice nothing in do so one after the other. -/
theorem SplicesNothing.bind {x : Render α} {f : α → Render β} (hx : x.SplicesNothing)
    (hf : ∀ a, (f a).SplicesNothing) : (x >>= f).SplicesNothing := by
  intro s
  have hfirst := hx s
  cases h : x s with
  | mk result chunks t =>
    rw [h] at hfirst
    cases result with
    | error e =>
      rw [bind_of_error h]
      exact hfirst
    | ok a =>
      rw [bind_of_ok h]
      exact hfirst.trans (hf a t)

/-- An evaluator parses at most, and that splices nothing in. -/
theorem splicesNothing_ask (question : Evaluator → Bindings → Expr.Cache → Reply α) :
    (ask question).SplicesNothing := by
  intro s
  refine ⟨_, rfl, List.filterMap_eq_nil_iff.mpr ?_⟩
  rintro event hevent
  obtain ⟨source, -, rfl⟩ := List.mem_map.mp hevent
  rfl

/-- Evaluation splices nothing in. -/
theorem splicesNothing_evaluate (source : Text) : (evaluate source).SplicesNothing :=
  (splicesNothing_record rfl).bind fun _ => splicesNothing_ask _

/-- Evaluation of a condition splices nothing in. -/
theorem splicesNothing_evaluateTest (source : Text) : (evaluateTest source).SplicesNothing :=
  (splicesNothing_record rfl).bind fun _ => splicesNothing_ask _

/-- Evaluation of a collection splices nothing in. -/
theorem splicesNothing_evaluateLoop (source : Text) (nullable : Bool) :
    (evaluateLoop source nullable).SplicesNothing :=
  (splicesNothing_record rfl).bind fun _ => splicesNothing_ask _

end Render

end SqlTemplate
