import SqlTemplate.Proofs.Render.Gives
import SqlTemplate.Proofs.Render.Layers

/-!
# Steps of a successful rendering

For each kind of node, what a successful rendering of it consists of. A pass of a loop starts from
a state in which its variables are bound under their own names and under names for the pass.
-/

namespace SqlTemplate

open Render

namespace Bindings

/-- The bindings with a loop variable under its name for the pass and under its own. -/
def insertVariable (bindings : Bindings) (name : Option String) (value : Value) (id : Nat) :
    Bindings :=
  match name with
  | none => bindings
  | some name => (bindings.insert (passName name id) value).insert name value

/-- The bindings without the entry of a loop variable. -/
def removeVariable (bindings : Bindings) (name : Option String) : Bindings :=
  match name with
  | none => bindings
  | some name => bindings.remove name

end Bindings

namespace Loop

/-- The state that the body of a pass starts from. -/
def enter (spec : Loop) (element : LoopElement) (s : RenderState) : RenderState :=
  { s with
    bindings := (s.bindings.insertVariable spec.index element.index s.nextId).insertVariable
      spec.item element.item s.nextId
    nextId := s.nextId + 1 }

/-- The state after a loop with passes. -/
def exit (spec : Loop) (s : RenderState) : RenderState :=
  { s with bindings := (s.bindings.removeVariable spec.item).removeVariable spec.index }

/-- The variables of a loop in the pass with the given number. -/
def scope (spec : Loop) (id : Nat) : LoopScope := ⟨spec.item, spec.index, id⟩

/-- A loop variable is bound, if the loop has it. -/
theorem gives_bindVariable {name : Option String} {value : Value} {id : Nat} {s t : RenderState}
    {u : Unit} {chunks : List Text} :
    (bindVariable name value id).Gives s u chunks t ↔
      chunks = [] ∧ t = { s with bindings := s.bindings.insertVariable name value id } := by
  cases name with
  | none => simp [bindVariable, gives_pure, Bindings.insertVariable]
  | some name =>
    simp only [bindVariable, bindName, gives_bind, gives_update, Bindings.insertVariable]
    constructor
    · rintro ⟨_, _, _, _, ⟨rfl, rfl⟩, ⟨rfl, rfl⟩, rfl⟩
      exact ⟨rfl, rfl⟩
    · rintro ⟨rfl, rfl⟩
      exact ⟨(), [], _, [], ⟨rfl, rfl⟩, ⟨rfl, rfl⟩, rfl⟩

/-- The entry of a loop variable is taken away, if the loop has it. -/
theorem gives_unbindVariable {name : Option String} {s t : RenderState} {u : Unit}
    {chunks : List Text} :
    (unbindVariable name).Gives s u chunks t ↔
      chunks = [] ∧ t = { s with bindings := s.bindings.removeVariable name } := by
  cases name with
  | none => simp [unbindVariable, gives_pure, Bindings.removeVariable]
  | some name => simp [unbindVariable, unbindName, gives_update, Bindings.removeVariable]

/-- A text that may be absent is yielded if it is there. -/
theorem gives_emitOption {text : Option Text} {s t : RenderState} {u : Unit}
    {chunks : List Text} :
    (emitOption text).Gives s u chunks t ↔ chunks = text.toList ∧ t = s := by
  cases text with
  | none => simp [emitOption, gives_pure]
  | some text => simp [emitOption, gives_emit]

/-- What becomes of a body that is rendered with the variables of a pass bound. -/
theorem gives_entered {spec : Loop} {body : Render Bool} {element : LoopElement}
    {s t : RenderState} {result : Bool × Layer} {chunks : List Text} :
    (do
      let id ← freshId
      bindVariable spec.index element.index id
      bindVariable spec.item element.item id
      within (.renamed ⟨spec.item, spec.index, id⟩) body : Render (Bool × Layer)).Gives
        s result chunks t ↔
      (within (.renamed (spec.scope s.nextId)) body).Gives
        (spec.enter element s) result chunks t := by
  simp only [gives_bind, gives_freshId, gives_bindVariable]
  constructor
  · rintro ⟨_, _, _, _, ⟨rfl, rfl, rfl⟩, ⟨_, _, _, _, ⟨rfl, rfl⟩, ⟨_, _, _, _, ⟨rfl, rfl⟩, h, rfl⟩,
      rfl⟩, rfl⟩
    exact h
  · intro h
    exact ⟨_, [], _, chunks, ⟨rfl, rfl, rfl⟩, ⟨(), [], _, chunks, ⟨rfl, rfl⟩, ⟨(), [], _, chunks,
      ⟨rfl, rfl⟩, h, rfl⟩, rfl⟩, rfl⟩

/-- A pass renders the body behind its two layers, from the state with its variables. -/
theorem gives_pass {spec : Loop} {body : Render Bool} {separator : Text} {element : LoopElement}
    {s t : RenderState} {written : Bool} {chunks : List Text} :
    (pass spec body separator element).Gives s written chunks t ↔
      ∃ contributed inside last, body.Gives (spec.enter element s) contributed inside t ∧
        (Layer.separated separator false).feedAll
          ((Layer.renamed (spec.scope s.nextId)).feedAll inside).2 = (last, chunks) ∧
        last.written = written := by
  unfold pass
  rw [gives_bind]
  constructor
  · rintro ⟨⟨result, last⟩, c, u, d, hwithin, hpure, rfl⟩
    obtain ⟨rfl, rfl, rfl⟩ := gives_pure.mp hpure
    obtain ⟨passed, hentered, hfeed⟩ := gives_within.mp hwithin
    obtain ⟨contributed, layer⟩ := result
    obtain ⟨inside, hbody, hrenamed⟩ := gives_within.mp (gives_entered.mp hentered)
    refine ⟨contributed, inside, last, hbody, ?_, rfl⟩
    rw [hrenamed, List.append_nil]
    exact hfeed
  · rintro ⟨contributed, inside, last, hbody, hfeed, rfl⟩
    refine ⟨((contributed, _), last), chunks, t, [], gives_within.mpr ⟨_, gives_entered.mpr
      (gives_within.mpr ⟨inside, hbody, rfl⟩), hfeed⟩, gives_pure.mpr ⟨rfl, rfl, rfl⟩, ?_⟩
    simp

/-- Without elements there are no passes. -/
theorem gives_passes_nil {spec : Loop} {body : Render Bool} {separate : Bool}
    {s t : RenderState} {u : Unit} {chunks : List Text} :
    (passes spec body separate []).Gives s u chunks t ↔ chunks = [] ∧ t = s := by
  simp [passes, gives_pure]

/-- The pass over the first element comes before the others, which are separated from it if it has
written anything. -/
theorem gives_passes_cons {spec : Loop} {body : Render Bool} {separate : Bool}
    {element : LoopElement} {rest : List LoopElement} {s t : RenderState} {u : Unit}
    {chunks : List Text} :
    (passes spec body separate (element :: rest)).Gives s u chunks t ↔
      ∃ written c v d,
        (pass spec body (if separate then spec.separator else []) element).Gives s written c v ∧
        (passes spec body (separate || written) rest).Gives v u d t ∧ chunks = c ++ d := by
  rw [passes, gives_bind]

/-- A loop over an empty collection leaves no trace but in the memory; else the passes stand between
the texts around them, and the variables are gone afterwards. -/
theorem gives_run {spec : Loop} {body : Render Bool} {s t : RenderState} {u : Unit}
    {chunks : List Text} (h : (run spec body).Gives s u chunks t) :
    ∃ elements v, (evaluateLoop spec.collection spec.nullable).Gives s elements [] v ∧
      (elements = [] ∧ chunks = [] ∧ t = v ∨ elements ≠ [] ∧
        ∃ inside w, (passes spec body false elements).Gives v () inside w ∧
          chunks = spec.opening.toList ++ inside ++ spec.closing.toList ∧ t = spec.exit w) := by
  unfold run at h
  obtain ⟨elements, c, v, d, heval, h, rfl⟩ := gives_bind.mp h
  obtain ⟨rfl, -⟩ := (quiet_evaluateLoop _ _).of_gives heval
  refine ⟨elements, v, heval, ?_⟩
  cases elements with
  | nil =>
    obtain ⟨-, rfl, rfl⟩ := gives_pure.mp h
    exact .inl ⟨rfl, rfl, rfl⟩
  | cons element rest =>
    right
    obtain ⟨_, _, _, _, hopening, hloop, rfl⟩ := gives_bind.mp h
    obtain ⟨rfl, rfl⟩ := gives_emitOption.mp hopening
    obtain ⟨_, inside, w, _, hpasses, hafter, rfl⟩ := gives_bind.mp hloop
    obtain ⟨_, _, _, _, hclosing, hunbind, rfl⟩ := gives_bind.mp hafter
    obtain ⟨rfl, rfl⟩ := gives_emitOption.mp hclosing
    obtain ⟨_, _, _, _, hitem, hindex, rfl⟩ := gives_bind.mp hunbind
    obtain ⟨rfl, rfl⟩ := gives_unbindVariable.mp hitem
    obtain ⟨rfl, rfl⟩ := gives_unbindVariable.mp hindex
    exact ⟨List.cons_ne_nil _ _, inside, _, hpasses, by simp, rfl⟩

end Loop

namespace Node

/-- No nodes, no chunks. -/
theorem gives_renderAll_nil {s t : RenderState} {u : Unit} {chunks : List Text} :
    (renderAll []).Gives s u chunks t ↔ chunks = [] ∧ t = s := by
  simp [renderAll, gives_pure]

/-- The first of several nodes is rendered before the others. -/
theorem gives_renderAll_cons {node : Node} {rest : List Node} {s t : RenderState} {u : Unit}
    {chunks : List Text} :
    (renderAll (node :: rest)).Gives s u chunks t ↔
      ∃ contributed c v d, (render node).Gives s contributed c v ∧ (renderAll rest).Gives v u d t ∧
        chunks = c ++ d := by
  rw [renderAll, gives_bind]

/-- Nodes one after another contribute. -/
theorem gives_mixed {children : List Node} {s t : RenderState} {contributed : Bool}
    {chunks : List Text} (h : (render (.mixed children)).Gives s contributed chunks t) :
    contributed = true ∧ (renderAll children).Gives s () chunks t := by
  rw [render] at h
  obtain ⟨_, c, _, _, hchildren, hpure, rfl⟩ := gives_bind.mp h
  obtain ⟨rfl, rfl, rfl⟩ := gives_pure.mp hpure
  exact ⟨rfl, by simpa using hchildren⟩

/-- Text is yielded as it is. -/
theorem gives_text {content : Text} {s t : RenderState} {contributed : Bool}
    {chunks : List Text} :
    (render (.text content)).Gives s contributed chunks t ↔
      contributed = true ∧ chunks = [content] ∧ t = s := by
  rw [render, gives_bind]
  constructor
  · rintro ⟨_, _, _, _, hemit, hpure, rfl⟩
    obtain ⟨rfl, rfl⟩ := gives_emit.mp hemit
    obtain ⟨rfl, rfl, rfl⟩ := gives_pure.mp hpure
    exact ⟨rfl, rfl, rfl⟩
  · rintro ⟨rfl, rfl, rfl⟩
    exact ⟨(), [content], t, [], gives_emit.mpr ⟨rfl, rfl⟩, gives_pure.mpr ⟨rfl, rfl, rfl⟩, rfl⟩

/-- A text that values are spliced into is scanned and yielded as one chunk. -/
theorem gives_splicedNode {content : Text} {filter : Option Filter} {s t : RenderState}
    {contributed : Bool} {chunks : List Text}
    (h : (render (.spliced content filter)).Gives s contributed chunks t) :
    ∃ text, contributed = true ∧
      (Delimiters.substitution.scan (splice filter) content).Gives s text [] t ∧
      chunks = [text] := by
  rw [render] at h
  obtain ⟨text, _, _, _, hscan, hrest, rfl⟩ := gives_bind.mp h
  obtain ⟨rfl, -⟩ := (Quiet.scan (quiet_splice filter) _ _).of_gives hscan
  obtain ⟨_, _, _, _, hemit, hpure, rfl⟩ := gives_bind.mp hrest
  obtain ⟨rfl, rfl⟩ := gives_emit.mp hemit
  obtain ⟨rfl, rfl, rfl⟩ := gives_pure.mp hpure
  exact ⟨text, rfl, hscan, rfl⟩

/-- A node under a condition is rendered if the condition holds. -/
theorem gives_cond {test : Text} {body : Node} {s t : RenderState} {contributed : Bool}
    {chunks : List Text} (h : (render (.cond test body)).Gives s contributed chunks t) :
    ∃ u, (evaluateTest test).Gives s contributed [] u ∧
      (contributed = true ∧ (∃ a, (render body).Gives u a chunks t) ∨
        contributed = false ∧ chunks = [] ∧ t = u) := by
  rw [render] at h
  obtain ⟨holds, c, u, d, htest, hrest, rfl⟩ := gives_bind.mp h
  obtain ⟨rfl, -⟩ := (quiet_evaluateTest test).of_gives htest
  cases holds with
  | true =>
    rw [if_pos rfl] at hrest
    obtain ⟨a, _, _, _, hbody, hpure, rfl⟩ := gives_bind.mp hrest
    obtain ⟨rfl, rfl, rfl⟩ := gives_pure.mp hpure
    exact ⟨u, htest, .inl ⟨rfl, a, by simpa using hbody⟩⟩
  | false =>
    rw [if_neg (by decide)] at hrest
    obtain ⟨rfl, rfl, rfl⟩ := gives_pure.mp hrest
    exact ⟨_, htest, .inr ⟨rfl, rfl, rfl⟩⟩

/-- Without branches there is none to take. -/
theorem gives_renderFirst_nil {s t : RenderState} {taken : Bool} {chunks : List Text} :
    (renderFirst []).Gives s taken chunks t ↔ taken = false ∧ chunks = [] ∧ t = s := by
  rw [renderFirst, gives_pure]
  exact ⟨fun ⟨h, hrest⟩ => ⟨h.symm, hrest⟩, fun ⟨h, hrest⟩ => ⟨h.symm, hrest⟩⟩

/-- A branch is taken if its condition holds, else one of those after it. -/
theorem gives_renderFirst_cons {test : Text} {body : Node} {rest : List (Text × Node)}
    {s t : RenderState} {taken : Bool} {chunks : List Text}
    (h : (renderFirst ((test, body) :: rest)).Gives s taken chunks t) :
    ∃ holds u, (evaluateTest test).Gives s holds [] u ∧
      (holds = true ∧ taken = true ∧ (∃ a, (render body).Gives u a chunks t) ∨
        holds = false ∧ (renderFirst rest).Gives u taken chunks t) := by
  rw [renderFirst] at h
  obtain ⟨holds, c, u, d, htest, hrest, rfl⟩ := gives_bind.mp h
  obtain ⟨rfl, -⟩ := (quiet_evaluateTest test).of_gives htest
  refine ⟨holds, u, htest, ?_⟩
  cases holds with
  | true =>
    rw [if_pos rfl] at hrest
    obtain ⟨a, _, _, _, hbody, hpure, rfl⟩ := gives_bind.mp hrest
    obtain ⟨rfl, rfl, rfl⟩ := gives_pure.mp hpure
    exact .inl ⟨rfl, rfl, a, by simpa using hbody⟩
  | false =>
    rw [if_neg (by decide)] at hrest
    exact .inr ⟨rfl, hrest⟩

/-- A choice renders the first branch whose condition holds, else the last node if it has one. -/
theorem gives_choose {branches : List (Text × Node)} {otherwise : Option Node}
    {s t : RenderState} {contributed : Bool} {chunks : List Text}
    (h : (render (.choose branches otherwise)).Gives s contributed chunks t) :
    ∃ taken c u, (renderFirst branches).Gives s taken c u ∧
      (taken = true ∧ contributed = true ∧ chunks = c ∧ t = u ∨
        taken = false ∧ contributed = otherwise.isSome ∧
          ((∃ node a d, otherwise = some node ∧ (render node).Gives u a d t ∧ chunks = c ++ d) ∨
            otherwise = none ∧ chunks = c ∧ t = u)) := by
  rw [render.eq_def] at h
  obtain ⟨taken, c, u, d, hfirst, hrest, rfl⟩ := gives_bind.mp h
  refine ⟨taken, c, u, hfirst, ?_⟩
  cases taken with
  | true =>
    rw [if_pos rfl] at hrest
    obtain ⟨rfl, rfl, rfl⟩ := gives_pure.mp hrest
    exact .inl ⟨rfl, rfl, by simp, rfl⟩
  | false =>
    rw [if_neg (by decide)] at hrest
    right
    cases otherwise with
    | none =>
      obtain ⟨rfl, rfl, rfl⟩ := gives_pure.mp hrest
      exact ⟨rfl, rfl, .inr ⟨rfl, by simp, rfl⟩⟩
    | some node =>
      obtain ⟨a, e, _, _, hnode, hpure, rfl⟩ := gives_bind.mp hrest
      obtain ⟨rfl, rfl, rfl⟩ := gives_pure.mp hpure
      exact ⟨rfl, rfl, .inl ⟨node, a, e, rfl, hnode, by simp⟩⟩

/-- A clause is collected and leaves as one chunk. -/
theorem gives_trim {rule : TrimRule} {body : Node} {s t : RenderState} {contributed : Bool}
    {chunks : List Text} :
    (render (.trim rule body)).Gives s contributed chunks t ↔
      ∃ inside, (render body).Gives s contributed inside t ∧
        chunks = [rule.apply (joinChunks [] inside)] := by
  rw [render, gives_bind]
  constructor
  · rintro ⟨⟨_, layer⟩, _, _, _, hwithin, hrest, rfl⟩
    obtain ⟨inside, hbody, hfeed⟩ := gives_within.mp hwithin
    obtain ⟨rfl, rfl⟩ := Prod.mk.inj ((Layer.feedAll_collected [] inside).symm.trans hfeed)
    obtain ⟨_, _, _, _, hemit, hpure, rfl⟩ := gives_bind.mp hrest
    obtain ⟨rfl, rfl⟩ := gives_emit.mp hemit
    obtain ⟨rfl, rfl, rfl⟩ := gives_pure.mp hpure
    exact ⟨inside, hbody, rfl⟩
  · rintro ⟨inside, hbody, rfl⟩
    exact ⟨_, [], t, _, gives_within.mpr ⟨inside, hbody, Layer.feedAll_collected [] inside⟩,
      gives_bind.mpr ⟨(), _, t, [], gives_emit.mpr ⟨rfl, rfl⟩, gives_pure.mpr ⟨rfl, rfl, rfl⟩, rfl⟩,
      rfl⟩

/-- A loop contributes. -/
theorem gives_loop {spec : Loop} {body : Node} {s t : RenderState} {contributed : Bool}
    {chunks : List Text} (h : (render (.loop spec body)).Gives s contributed chunks t) :
    contributed = true ∧ (spec.run (render body)).Gives s () chunks t := by
  rw [render] at h
  obtain ⟨_, c, _, _, hloop, hpure, rfl⟩ := gives_bind.mp h
  obtain ⟨rfl, rfl, rfl⟩ := gives_pure.mp hpure
  exact ⟨rfl, by simpa using hloop⟩

/-- A value is put under a name without any text. -/
theorem gives_bindNode {name : String} {value : Text} {s t : RenderState} {contributed : Bool}
    {chunks : List Text} (h : (render (.bind name value)).Gives s contributed chunks t) :
    contributed = true ∧ chunks = [] ∧ t.nextId = s.nextId := by
  rw [render] at h
  obtain ⟨found, _, _, _, hvalue, hrest, rfl⟩ := gives_bind.mp h
  obtain ⟨rfl, memory, rfl⟩ := (quiet_evaluate value).of_gives hvalue
  obtain ⟨_, _, _, _, hbind, hpure, rfl⟩ := gives_bind.mp hrest
  obtain ⟨rfl, rfl⟩ := gives_update.mp hbind
  obtain ⟨rfl, rfl, rfl⟩ := gives_pure.mp hpure
  exact ⟨rfl, rfl, rfl⟩

end Node

end SqlTemplate
