import SqlTemplate.Proofs.Node.Visits

/-!
# Choices settle the text

Two renderings of a node that make the same choices yield the same chunks, whatever the values are
that the choices come from. The only exception is text that values are spliced into.
-/

namespace SqlTemplate

open Render

namespace Visit

/-- The choices among some visits. -/
def choices (visits : List Visit) : List Choice := visits.filterMap choice?

/-- Without visits there are no choices. -/
@[simp] theorem choices_nil : choices [] = [] := rfl

/-- A choice stands before those that are made after it. -/
@[simp] theorem choices_choice_cons (made : Choice) (rest : List Visit) :
    choices (choice made :: rest) = made :: choices rest := rfl

/-- A text is no choice. -/
@[simp] theorem choices_text_cons (content : Text) (around : Fields) (rest : List Visit) :
    choices (text content around :: rest) = choices rest := rfl

/-- Choices stand in the order of the visits. -/
@[simp] theorem choices_append (first second : List Visit) :
    choices (first ++ second) = choices first ++ choices second := List.filterMap_append

end Visit

open Visit (choices)

/-- Choices steer a rendering: if it succeeds twice from states with the same next number, and the
choices are the same as far as they belong to it, then results and chunks are the same, and so are
the next numbers and the choices that remain. -/
def Render.SteeredBy {α : Type} (x : Render α) (visits : Fields → RenderState → List Visit) :
    Prop :=
  ∀ ⦃outer₁ outer₂ : Fields⦄ ⦃s₁ s₂ t₁ t₂ : RenderState⦄ ⦃a₁ a₂ : α⦄ ⦃chunks₁ chunks₂ : List Text⦄
    ⦃more₁ more₂ : List Choice⦄, x.Gives s₁ a₁ chunks₁ t₁ → x.Gives s₂ a₂ chunks₂ t₂ →
    s₁.nextId = s₂.nextId →
    choices (visits outer₁ s₁) ++ more₁ = choices (visits outer₂ s₂) ++ more₂ →
    a₁ = a₂ ∧ chunks₁ = chunks₂ ∧ t₁.nextId = t₂.nextId ∧ more₁ = more₂

namespace Node

/-- Nodes that splice no values into the text. -/
inductive SpliceFree : Node → Prop
  | mixed {children : List Node} (h : ∀ node ∈ children, SpliceFree node) :
    SpliceFree (.mixed children)
  | text (content : Text) : SpliceFree (.text content)
  | cond {test : Text} {body : Node} (h : SpliceFree body) : SpliceFree (.cond test body)
  | choose {branches : List (Text × Node)} {otherwise : Option Node}
    (h : ∀ branch ∈ branches, SpliceFree branch.2) (hlast : ∀ node ∈ otherwise, SpliceFree node) :
    SpliceFree (.choose branches otherwise)
  | trim {rule : TrimRule} {body : Node} (h : SpliceFree body) : SpliceFree (.trim rule body)
  | loop {spec : Loop} {body : Node} (h : SpliceFree body) : SpliceFree (.loop spec body)
  | bind (name : String) (value : Text) : SpliceFree (.bind name value)

/-- Several nodes are steered if each of them is. -/
theorem renderAll_steeredBy {children : List Node}
    (h : ∀ node ∈ children, (render node).SteeredBy (visits node)) :
    (renderAll children).SteeredBy (visitsAll children) := by
  induction children with
  | nil =>
    intro outer₁ outer₂ s₁ s₂ t₁ t₂ a₁ a₂ chunks₁ chunks₂ more₁ more₂ h₁ h₂ hid hmore
    obtain ⟨rfl, rfl⟩ := gives_renderAll_nil.mp h₁
    obtain ⟨rfl, rfl⟩ := gives_renderAll_nil.mp h₂
    exact ⟨rfl, rfl, hid, hmore⟩
  | cons node rest ih =>
    intro outer₁ outer₂ s₁ s₂ t₁ t₂ a₁ a₂ chunks₁ chunks₂ more₁ more₂ h₁ h₂ hid hmore
    obtain ⟨_, c₁, u₁, d₁, hfirst₁, hrest₁, rfl⟩ := gives_renderAll_cons.mp h₁
    obtain ⟨_, c₂, u₂, d₂, hfirst₂, hrest₂, rfl⟩ := gives_renderAll_cons.mp h₂
    rw [visitsAll, visitsAll, hfirst₁.visits, hfirst₂.visits, Visit.choices_append,
      Visit.choices_append, List.append_assoc, List.append_assoc] at hmore
    obtain ⟨-, rfl, hid', hmore'⟩ := h node List.mem_cons_self hfirst₁ hfirst₂ hid hmore
    obtain ⟨-, rfl, hid'', hmore''⟩ := ih (fun n hn => h n (List.mem_cons_of_mem _ hn)) hrest₁
      hrest₂ hid' hmore'
    exact ⟨rfl, rfl, hid'', hmore''⟩

/-- The search for a branch is steered if each branch is. -/
theorem renderFirst_steeredBy {branches : List (Text × Node)}
    (h : ∀ branch ∈ branches, (render branch.2).SteeredBy (visits branch.2)) :
    (renderFirst branches).SteeredBy (visitsFirst branches) := by
  induction branches with
  | nil =>
    intro outer₁ outer₂ s₁ s₂ t₁ t₂ a₁ a₂ chunks₁ chunks₂ more₁ more₂ h₁ h₂ hid hmore
    obtain ⟨rfl, rfl, rfl⟩ := gives_renderFirst_nil.mp h₁
    obtain ⟨rfl, rfl, rfl⟩ := gives_renderFirst_nil.mp h₂
    exact ⟨rfl, rfl, hid, hmore⟩
  | cons branch rest ih =>
    obtain ⟨test, body⟩ := branch
    intro outer₁ outer₂ s₁ s₂ t₁ t₂ a₁ a₂ chunks₁ chunks₂ more₁ more₂ h₁ h₂ hid hmore
    obtain ⟨holds₁, u₁, htest₁, hcase₁⟩ := gives_renderFirst_cons h₁
    obtain ⟨holds₂, u₂, htest₂, hcase₂⟩ := gives_renderFirst_cons h₂
    rw [visitsFirst, visitsFirst, htest₁.visits, htest₂.visits] at hmore
    simp only [Visit.choices_choice_cons, List.cons_append, List.cons.injEq,
      Choice.test.injEq] at hmore
    obtain ⟨rfl, hmore⟩ := hmore
    have hid' := (quiet_evaluateTest test).nextId_eq htest₁ htest₂ hid
    rcases hcase₁ with ⟨rfl, rfl, b₁, hbody₁⟩ | ⟨rfl, hrest₁⟩
    · rcases hcase₂ with ⟨-, rfl, b₂, hbody₂⟩ | ⟨hfalse, -⟩
      · rw [if_pos rfl, if_pos rfl] at hmore
        obtain ⟨-, rest⟩ := h _ List.mem_cons_self hbody₁ hbody₂ hid' hmore
        exact ⟨rfl, rest⟩
      · cases hfalse
    · rcases hcase₂ with ⟨htrue, -⟩ | ⟨-, hrest₂⟩
      · cases htrue
      · rw [if_neg (by decide), if_neg (by decide)] at hmore
        exact ih (fun b hb => h b (List.mem_cons_of_mem _ hb)) hrest₁ hrest₂ hid' hmore

/-- The passes over two collections of one size are steered if the body is: names for the passes
come from the numbers, and separators from the chunks. -/
theorem passes_eq {spec : Loop} {body : Node} (h : (render body).SteeredBy (visits body))
    {elements₁ elements₂ : List LoopElement} (hlength : elements₁.length = elements₂.length)
    {separate : Bool} {outer₁ outer₂ : Fields} {s₁ s₂ t₁ t₂ : RenderState}
    {chunks₁ chunks₂ : List Text} {more₁ more₂ : List Choice}
    (h₁ : (spec.passes (render body) separate elements₁).Gives s₁ () chunks₁ t₁)
    (h₂ : (spec.passes (render body) separate elements₂).Gives s₂ () chunks₂ t₂)
    (hid : s₁.nextId = s₂.nextId)
    (hmore : choices (spec.visitsPasses (render body) (visits body) outer₁ elements₁ s₁) ++ more₁ =
      choices (spec.visitsPasses (render body) (visits body) outer₂ elements₂ s₂) ++ more₂) :
    chunks₁ = chunks₂ ∧ t₁.nextId = t₂.nextId ∧ more₁ = more₂ := by
  induction elements₁ generalizing elements₂ separate s₁ s₂ chunks₁ chunks₂ with
  | nil =>
    obtain rfl := List.length_eq_zero_iff.mp hlength.symm
    obtain ⟨rfl, rfl⟩ := Loop.gives_passes_nil.mp h₁
    obtain ⟨rfl, rfl⟩ := Loop.gives_passes_nil.mp h₂
    exact ⟨rfl, hid, hmore⟩
  | cons element₁ rest₁ ih =>
    obtain ⟨element₂, rest₂, rfl⟩ := List.exists_cons_of_length_eq_add_one hlength.symm
    obtain ⟨written₁, c₁, v₁, d₁, hpass₁, hpasses₁, rfl⟩ := Loop.gives_passes_cons.mp h₁
    obtain ⟨written₂, c₂, v₂, d₂, hpass₂, hpasses₂, rfl⟩ := Loop.gives_passes_cons.mp h₂
    obtain ⟨a₁, inside₁, last₁, hbody₁, hfeed₁, rfl⟩ := Loop.gives_pass.mp hpass₁
    obtain ⟨a₂, inside₂, last₂, hbody₂, hfeed₂, rfl⟩ := Loop.gives_pass.mp hpass₂
    rw [Loop.visitsPasses, Loop.visitsPasses, hbody₁.visits, hbody₂.visits, Visit.choices_append,
      Visit.choices_append, List.append_assoc, List.append_assoc] at hmore
    have henter : (spec.enter element₁ s₁).nextId = (spec.enter element₂ s₂).nextId :=
      congrArg (· + 1) hid
    obtain ⟨-, rfl, hleave, hrest⟩ := h hbody₁ hbody₂ henter hmore
    rw [hid] at hfeed₁
    obtain ⟨rfl, rfl⟩ := Prod.mk.inj (hfeed₁.symm.trans hfeed₂)
    obtain ⟨rfl, hlast, hremain⟩ := ih (Nat.succ.inj hlength) hpasses₁ hpasses₂ hleave hrest
    exact ⟨rfl, hlast, hremain⟩

/-- A loop is steered if its body is. -/
theorem loop_steeredBy {spec : Loop} {body : Node} (h : (render body).SteeredBy (visits body)) :
    (render (.loop spec body)).SteeredBy (visits (.loop spec body)) := by
  intro outer₁ outer₂ s₁ s₂ t₁ t₂ a₁ a₂ chunks₁ chunks₂ more₁ more₂ h₁ h₂ hid hmore
  obtain ⟨rfl, hrun₁⟩ := gives_loop h₁
  obtain ⟨rfl, hrun₂⟩ := gives_loop h₂
  obtain ⟨elements₁, v₁, hevaluate₁, hcase₁⟩ := Loop.gives_run hrun₁
  obtain ⟨elements₂, v₂, hevaluate₂, hcase₂⟩ := Loop.gives_run hrun₂
  rw [visits, visits, hevaluate₁.visits, hevaluate₂.visits] at hmore
  simp only [Visit.choices_choice_cons, List.cons_append, List.cons.injEq,
    Choice.loop.injEq] at hmore
  obtain ⟨hlength, hmore⟩ := hmore
  have hid' := (quiet_evaluateLoop _ _).nextId_eq hevaluate₁ hevaluate₂ hid
  rcases hcase₁ with ⟨rfl, rfl, rfl⟩ | ⟨hne₁, inside₁, w₁, hpasses₁, rfl, rfl⟩
  · obtain rfl := List.length_eq_zero_iff.mp hlength.symm
    rcases hcase₂ with ⟨-, rfl, rfl⟩ | ⟨hne₂, _⟩
    · exact ⟨rfl, rfl, hid', hmore⟩
    · exact absurd rfl hne₂
  · rcases hcase₂ with ⟨rfl, -, -⟩ | ⟨-, inside₂, w₂, hpasses₂, rfl, rfl⟩
    · exact absurd (List.length_eq_zero_iff.mp hlength) hne₁
    · obtain ⟨rfl, hlast, hremain⟩ := passes_eq h hlength hpasses₁ hpasses₂ hid' hmore
      exact ⟨rfl, rfl, hlast, hremain⟩

/-- Choices steer every node that splices no values into the text. -/
theorem SpliceFree.steeredBy {node : Node} (h : node.SpliceFree) :
    (render node).SteeredBy (visits node) := by
  induction h with
  | mixed _ ih =>
    intro outer₁ outer₂ s₁ s₂ t₁ t₂ a₁ a₂ chunks₁ chunks₂ more₁ more₂ h₁ h₂ hid hmore
    obtain ⟨rfl, hall₁⟩ := gives_mixed h₁
    obtain ⟨rfl, hall₂⟩ := gives_mixed h₂
    rw [visits, visits] at hmore
    obtain ⟨-, hrest⟩ := renderAll_steeredBy ih hall₁ hall₂ hid hmore
    exact ⟨rfl, hrest⟩
  | text content =>
    intro outer₁ outer₂ s₁ s₂ t₁ t₂ a₁ a₂ chunks₁ chunks₂ more₁ more₂ h₁ h₂ hid hmore
    obtain ⟨rfl, rfl, rfl⟩ := gives_text.mp h₁
    obtain ⟨rfl, rfl, rfl⟩ := gives_text.mp h₂
    exact ⟨rfl, rfl, hid, hmore⟩
  | @cond test body _ ih =>
    intro outer₁ outer₂ s₁ s₂ t₁ t₂ a₁ a₂ chunks₁ chunks₂ more₁ more₂ h₁ h₂ hid hmore
    obtain ⟨u₁, htest₁, hcase₁⟩ := gives_cond h₁
    obtain ⟨u₂, htest₂, hcase₂⟩ := gives_cond h₂
    rw [visits, visits, htest₁.visits, htest₂.visits] at hmore
    simp only [Visit.choices_choice_cons, List.cons_append, List.cons.injEq,
      Choice.test.injEq] at hmore
    obtain ⟨rfl, hmore⟩ := hmore
    have hid' := (quiet_evaluateTest test).nextId_eq htest₁ htest₂ hid
    rcases hcase₁ with ⟨rfl, b₁, hbody₁⟩ | ⟨rfl, rfl, rfl⟩
    · rcases hcase₂ with ⟨-, b₂, hbody₂⟩ | ⟨hfalse, -⟩
      · rw [if_pos rfl, if_pos rfl] at hmore
        obtain ⟨-, hrest⟩ := ih hbody₁ hbody₂ hid' hmore
        exact ⟨rfl, hrest⟩
      · cases hfalse
    · rcases hcase₂ with ⟨htrue, -⟩ | ⟨-, rfl, rfl⟩
      · cases htrue
      · exact ⟨rfl, rfl, hid', hmore⟩
  | @choose branches otherwise _ _ ih ihlast =>
    intro outer₁ outer₂ s₁ s₂ t₁ t₂ a₁ a₂ chunks₁ chunks₂ more₁ more₂ h₁ h₂ hid hmore
    obtain ⟨taken₁, c₁, u₁, hfirst₁, hcase₁⟩ := gives_choose h₁
    obtain ⟨taken₂, c₂, u₂, hfirst₂, hcase₂⟩ := gives_choose h₂
    rw [visits, visits, hfirst₁.visits, hfirst₂.visits, Visit.choices_append,
      Visit.choices_append, List.append_assoc, List.append_assoc] at hmore
    obtain ⟨rfl, rfl, hid', hmore'⟩ := renderFirst_steeredBy ih hfirst₁ hfirst₂ hid hmore
    rcases hcase₁ with ⟨rfl, rfl, rfl, rfl⟩ | ⟨rfl, rfl, hlast₁⟩
    · rcases hcase₂ with ⟨-, rfl, rfl, rfl⟩ | ⟨hfalse, -⟩
      · exact ⟨rfl, rfl, hid', hmore'⟩
      · cases hfalse
    · rcases hcase₂ with ⟨htrue, -⟩ | ⟨-, rfl, hlast₂⟩
      · cases htrue
      · rcases hlast₁ with ⟨node, b₁, d₁, rfl, hnode₁, rfl⟩ | ⟨rfl, rfl, rfl⟩
        · obtain ⟨_, b₂, d₂, hsame, hnode₂, rfl⟩ | ⟨hnone, -⟩ := hlast₂
          · cases hsame
            rw [if_neg (by decide), if_neg (by decide), visitsLast, visitsLast] at hmore'
            obtain ⟨-, rfl, hrest⟩ := ihlast node rfl hnode₁ hnode₂ hid' hmore'
            exact ⟨rfl, rfl, hrest⟩
          · cases hnone
        · obtain ⟨_, _, _, hsome, -⟩ | ⟨-, rfl, rfl⟩ := hlast₂
          · cases hsome
          · exact ⟨rfl, rfl, hid', hmore'⟩
  | trim _ ih =>
    intro outer₁ outer₂ s₁ s₂ t₁ t₂ a₁ a₂ chunks₁ chunks₂ more₁ more₂ h₁ h₂ hid hmore
    obtain ⟨inside₁, hbody₁, rfl⟩ := gives_trim.mp h₁
    obtain ⟨inside₂, hbody₂, rfl⟩ := gives_trim.mp h₂
    rw [visits, visits] at hmore
    obtain ⟨rfl, rfl, hrest⟩ := ih hbody₁ hbody₂ hid hmore
    exact ⟨rfl, rfl, hrest⟩
  | loop _ ih => exact loop_steeredBy ih
  | bind name value =>
    intro outer₁ outer₂ s₁ s₂ t₁ t₂ a₁ a₂ chunks₁ chunks₂ more₁ more₂ h₁ h₂ hid hmore
    obtain ⟨rfl, rfl, hid₁⟩ := gives_bindNode h₁
    obtain ⟨rfl, rfl, hid₂⟩ := gives_bindNode h₂
    exact ⟨rfl, rfl, by rw [hid₁, hid₂, hid], hmore⟩

end Node

end SqlTemplate
