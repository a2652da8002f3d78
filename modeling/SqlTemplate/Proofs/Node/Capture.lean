import Mathlib.Data.List.Forall2
import SqlTemplate.Proofs.Node.Keeping
import SqlTemplate.Proofs.Node.Visits
import SqlTemplate.Proofs.Render.Renaming

/-!
# Placeholders and the passes they stand in

A placeholder in the body of a loop leaves the loop with the name that its variable has for the
pass. The value is found under that name when all is rendered, so the placeholder means the element
of its pass.
-/

namespace SqlTemplate

open Delimiters LoopScope Render

/-- The bodies of the placeholders in the texts that are visited, each with the variables around
it. -/
def Visit.occurrences (visits : List Visit) : List (Text × Fields) :=
  (visits.filterMap text?).flatMap fun (content, around) =>
    (parameter.bodies content).map (·, around)

namespace Visit

/-- Without visits there are no placeholders. -/
@[simp] theorem occurrences_nil : occurrences [] = [] := rfl

/-- There is no placeholder in a choice. -/
@[simp] theorem occurrences_choice_cons (made : Choice) (rest : List Visit) :
    occurrences (choice made :: rest) = occurrences rest := rfl

/-- The placeholders of a text stand before those that are visited later. -/
@[simp] theorem occurrences_text_cons (content : Text) (around : Fields) (rest : List Visit) :
    occurrences (text content around :: rest) =
      (parameter.bodies content).map (·, around) ++ occurrences rest := rfl

/-- Placeholders stand in the order of the visits. -/
@[simp] theorem occurrences_append (first second : List Visit) :
    occurrences (first ++ second) = occurrences first ++ occurrences second := by
  rw [occurrences, List.filterMap_append, List.flatMap_append]
  rfl

end Visit

/-- What becomes of the body of a placeholder within loops with some variables, innermost first. The
first variable whose name the body starts with is under its name for the pass, and has its value
there. -/
inductive Emitted (t : RenderState) : (around : Fields) → (body emitted : Text) → Prop
  | plain {around : Fields} {body : Text}
    (h : ∀ entry ∈ around, afterName? entry.1 body = none) :
    Emitted t around body body
  | renamed {before after : Fields} {name : String} {value : Value} {id : Nat} {body rest : Text}
    (hbefore : ∀ entry ∈ before, afterName? entry.1 body = none)
    (hrest : afterName? name body = some rest) (hid : id < t.nextId)
    (hvalue : t.bindings.bound? (passName name id) = some value) :
    Emitted t (before ++ (name, value) :: after) body ((passName name id).toList ++ rest)

/-- A placeholder has come out of the loops within some outer ones. -/
def EmittedWithin (outer : Fields) (t : RenderState) (occurrence : Text × Fields)
    (emitted : Text) : Prop :=
  ∃ inner, occurrence.2 = inner ++ outer ∧ (∀ entry ∈ inner, IsName entry.1) ∧
    Emitted t inner occurrence.1 emitted

namespace Emitted

variable {s t : RenderState} {around : Fields} {body emitted : Text}

/-- A placeholder keeps its meaning in later states. -/
theorem keeps (h : Emitted s around body emitted) (hkeeps : s.Keeps t) :
    Emitted t around body emitted := by
  cases h with
  | plain h => exact .plain h
  | renamed hbefore hrest hid hvalue =>
    exact .renamed hbefore hrest (Nat.lt_of_lt_of_le hid hkeeps.nextId)
      ((hkeeps.passes _ _ hid).trans hvalue)

/-- Passing through the layer of a loop adds the variables of the loop. -/
theorem rename {spec : Loop} {element : LoopElement} {id : Nat} (hspec : (spec.scope id).Named)
    (h : Emitted t around body emitted) (hid : id < t.nextId)
    (hitem : ∀ n ∈ spec.item, t.bindings.bound? (passName n id) = some element.item)
    (hindex : ∀ n ∈ spec.index, spec.item ≠ some n →
      t.bindings.bound? (passName n id) = some element.index) :
    Emitted t (around ++ spec.extend element []) body ((spec.scope id).rename emitted) := by
  cases h with
  | @renamed before after name value number _ rest hbefore hrest hnumber hvalue =>
    rw [hspec.rename_passName, List.append_assoc]
    exact .renamed hbefore hrest hnumber hvalue
  | plain h =>
    have hextend : spec.extend element [] = spec.item.toList.map (·, element.item) ++
        spec.index.toList.map (·, element.index) := List.append_nil _
    have hnone {own : Option String} (hown : ∀ n ∈ own, afterName? n body = none) (value : Value) :
        ∀ entry ∈ own.toList.map (·, value), afterName? entry.1 body = none := by
      intro entry hentry
      obtain ⟨n, hn, rfl⟩ := List.mem_map.mp hentry
      exact hown n (Option.mem_toList.mp hn)
    rw [hextend]
    rcases rename_cases (spec.scope id) body with ⟨name, rest, hname, hrest, hsame⟩ |
      ⟨hplain, ⟨name, rest, hname, hrest, hsame⟩ | ⟨hindices, hsame⟩⟩
    · have hname' : spec.item = some name := hname
      rw [hsame, hname']
      exact .renamed h hrest hid (hitem name hname')
    · have hname' : spec.index = some name := hname
      have hother : spec.item ≠ some name := by
        intro hsome
        rw [hplain name hsome] at hrest
        cases hrest
      rw [hsame, hname', ← List.append_assoc]
      refine .renamed (List.forall_mem_append.mpr ⟨h, hnone hplain _⟩) hrest hid ?_
      exact hindex name hname' hother
    · rw [hsame, ← List.append_assoc]
      refine .plain (List.forall_mem_append.mpr ⟨?_, hnone hindices _⟩)
      exact List.forall_mem_append.mpr ⟨h, hnone hplain _⟩

end Emitted

namespace EmittedWithin

variable {outer : Fields} {s t : RenderState}

/-- A placeholder outside the loops is as it was. -/
theorem of_outer (outer : Fields) (t : RenderState) (body : Text) :
    EmittedWithin outer t (body, outer) body :=
  ⟨[], rfl, List.forall_mem_nil _, .plain (List.forall_mem_nil _)⟩

/-- Placeholders keep their meaning in later states. -/
theorem keeps {occurrences : List (Text × Fields)} {bodies : List Text}
    (h : List.Forall₂ (EmittedWithin outer s) occurrences bodies) (hkeeps : s.Keeps t) :
    List.Forall₂ (EmittedWithin outer t) occurrences bodies := by
  refine h.imp fun occurrence body hwithin => ?_
  obtain ⟨inner, hinner, hnames, hemitted⟩ := hwithin
  exact ⟨inner, hinner, hnames, hemitted.keeps hkeeps⟩

/-- What has come out of the loops within a pass comes out of its loop through renaming. -/
theorem rename {spec : Loop} {element : LoopElement} {occurrences : List (Text × Fields)}
    {bodies : List Text} (hitem : ∀ n ∈ spec.item, IsName n) (hindex : ∀ n ∈ spec.index, IsName n)
    (hkeeps : (spec.enter element s).Keeps t)
    (h : List.Forall₂ (EmittedWithin (spec.extend element outer) t) occurrences bodies) :
    List.Forall₂ (EmittedWithin outer t) occurrences
      (bodies.map (spec.scope s.nextId).rename) := by
  have hid : s.nextId < t.nextId := hkeeps.nextId
  rw [List.forall₂_map_right_iff]
  refine h.imp fun occurrence body hwithin => ?_
  obtain ⟨inner, hinner, hnames, hemitted⟩ := hwithin
  refine ⟨inner ++ spec.extend element [], ?_, ?_, ?_⟩
  · rw [hinner]
    simp [Loop.extend]
  · refine List.forall_mem_append.mpr ⟨hnames, fun entry hentry => ?_⟩
    rw [Loop.extend, List.append_nil, List.mem_append, List.mem_map, List.mem_map] at hentry
    rcases hentry with ⟨name, hname, rfl⟩ | ⟨name, hname, rfl⟩
    · exact hitem name (Option.mem_toList.mp hname)
    · exact hindex name (Option.mem_toList.mp hname)
  · refine hemitted.rename ⟨hitem, hindex⟩ hid ?_ ?_
    · intro name hname
      rw [hkeeps.passes name s.nextId (Nat.lt_succ_self _)]
      exact Loop.bound?_enter_item hitem hname element s
    · intro name hname hother
      rw [hkeeps.passes name s.nextId (Nat.lt_succ_self _)]
      exact Loop.bound?_enter_index hitem hindex hother hname element s

end EmittedWithin

/-- A rendering captures the variables of loops: it keeps what earlier passes have left, and all
placeholders that it comes to are in its chunks, in order, with the names for their passes. -/
def Render.Captures {α : Type} (x : Render α) (visits : Fields → RenderState → List Visit) :
    Prop :=
  ∀ (outer : Fields) ⦃s t : RenderState⦄ ⦃a : α⦄ ⦃chunks : List Text⦄, x.Gives s a chunks t →
    s.Keeps t ∧ ∃ bodies, ClosedAll chunks bodies ∧
      List.Forall₂ (EmittedWithin outer t) (Visit.occurrences (visits outer s)) bodies

/-- A loop with proper names for its variables, and without placeholders in the texts around its
passes. -/
structure Loop.Capturing (spec : Loop) : Prop where
  item : ∀ name ∈ spec.item, IsName name
  index : ∀ name ∈ spec.index, IsName name
  opening : ∀ text ∈ spec.opening, Text.breakOn parameter.opening text = none
  closing : ∀ text ∈ spec.closing, Text.breakOn parameter.opening text = none
  separator : Text.breakOn parameter.opening spec.separator = none

namespace Node

/-- Nodes of text with closed placeholders, conditions, choices, clauses and loops. -/
inductive Capturing : Node → Prop
  | mixed {children : List Node} (h : ∀ node ∈ children, Capturing node) :
    Capturing (.mixed children)
  | text {content : Text} (h : parameter.Terminated content) : Capturing (.text content)
  | cond {test : Text} {body : Node} (h : Capturing body) : Capturing (.cond test body)
  | choose {branches : List (Text × Node)} {otherwise : Option Node}
    (h : ∀ branch ∈ branches, Capturing branch.2) (hlast : ∀ node ∈ otherwise, Capturing node) :
    Capturing (.choose branches otherwise)
  | trim {rule : TrimRule} {body : Node} (hrule : rule.Harmless) (h : Capturing body) :
    Capturing (.trim rule body)
  | loop {spec : Loop} {body : Node} (hspec : spec.Capturing) (h : Capturing body) :
    Capturing (.loop spec body)

/-- Several nodes capture variables if each of them does. -/
theorem renderAll_captures {children : List Node}
    (h : ∀ node ∈ children, (render node).Captures (visits node)) :
    (renderAll children).Captures (visitsAll children) := by
  induction children with
  | nil =>
    intro outer s t a chunks hgives
    obtain ⟨rfl, rfl⟩ := gives_renderAll_nil.mp hgives
    exact ⟨.withMemory _ _, [], .nil, .nil⟩
  | cons node rest ih =>
    intro outer s t a chunks hgives
    obtain ⟨_, c, u, d, hfirst, hrest, rfl⟩ := gives_renderAll_cons.mp hgives
    obtain ⟨hkeeps, bodies, hclosed, hemitted⟩ := h node List.mem_cons_self outer hfirst
    obtain ⟨hlater, more, hclosed', hemitted'⟩ :=
      ih (fun n hn => h n (List.mem_cons_of_mem _ hn)) outer hrest
    refine ⟨hkeeps.trans hlater, bodies ++ more, hclosed.append hclosed', ?_⟩
    rw [visitsAll, hfirst.visits, Visit.occurrences_append]
    exact List.rel_append (EmittedWithin.keeps hemitted hlater) hemitted'

/-- The search for a branch captures variables if each branch does. -/
theorem renderFirst_captures {branches : List (Text × Node)}
    (h : ∀ branch ∈ branches, (render branch.2).Captures (visits branch.2)) :
    (renderFirst branches).Captures (visitsFirst branches) := by
  induction branches with
  | nil =>
    intro outer s t a chunks hgives
    obtain ⟨rfl, rfl, rfl⟩ := gives_renderFirst_nil.mp hgives
    exact ⟨.withMemory _ _, [], .nil, .nil⟩
  | cons branch rest ih =>
    obtain ⟨test, body⟩ := branch
    intro outer s t a chunks hgives
    obtain ⟨holds, u, htest, hcase⟩ := gives_renderFirst_cons hgives
    have hkeeps := (quiet_evaluateTest test).keeps htest
    rw [visitsFirst, htest.visits, Visit.occurrences_choice_cons]
    rcases hcase with ⟨rfl, -, b, hbody⟩ | ⟨rfl, hrest⟩
    · obtain ⟨hlater, hinside⟩ := h _ List.mem_cons_self outer hbody
      exact ⟨hkeeps.trans hlater, hinside⟩
    · obtain ⟨hlater, hinside⟩ :=
        ih (fun b hb => h b (List.mem_cons_of_mem _ hb)) outer hrest
      exact ⟨hkeeps.trans hlater, hinside⟩

/-- The chunks of a pass behind its layers have the placeholders of its body, renamed. -/
theorem closedAll_feedAll {scope : LoopScope} (hscope : scope.Named) {separator : Text}
    (hseparator : Text.breakOn parameter.opening separator = none)
    {inside chunks bodies : List Text} {last : Layer} (hinside : ClosedAll inside bodies)
    (hfeed : (Layer.separated separator false).feedAll
      ((Layer.renamed scope).feedAll inside).2 = (last, chunks)) :
    ClosedAll chunks (bodies.map scope.rename) := by
  have hrenamed := hscope.closedAll_renameAll hinside
  rw [Layer.feedAll_renamed] at hfeed
  rcases Layer.feedAll_separated_false separator (inside.map scope.renameAll) with
    hsame | ⟨before, after, hsplit, hadded⟩
  · rw [hsame] at hfeed
    obtain ⟨-, rfl⟩ := Prod.mk.inj hfeed
    exact hrenamed
  · rw [hadded] at hfeed
    obtain ⟨-, rfl⟩ := Prod.mk.inj hfeed
    rw [hsplit] at hrenamed
    exact hrenamed.insert (.of_breakOn hseparator)

/-- The passes of a loop capture variables, those of the loop included, if its body does. -/
theorem passes_captures {spec : Loop} (hspec : spec.Capturing) {body : Node}
    (h : (render body).Captures (visits body)) (elements : List LoopElement) (separate : Bool) :
    (spec.passes (render body) separate elements).Captures fun outer =>
      spec.visitsPasses (render body) (visits body) outer elements := by
  induction elements generalizing separate with
  | nil =>
    intro outer s t a chunks hgives
    obtain ⟨rfl, rfl⟩ := Loop.gives_passes_nil.mp hgives
    exact ⟨.withMemory _ _, [], .nil, .nil⟩
  | cons element rest ih =>
    intro outer s t a chunks hgives
    obtain ⟨written, c, v, d, hpass, hpasses, rfl⟩ := Loop.gives_passes_cons.mp hgives
    obtain ⟨b, inside, last, hbody, hfeed, -⟩ := Loop.gives_pass.mp hpass
    obtain ⟨hkeeps, bodies, hclosed, hemitted⟩ := h (spec.extend element outer) hbody
    obtain ⟨hlater, more, hclosed', hemitted'⟩ := ih (separate || written) outer hpasses
    have hseparator : Text.breakOn parameter.opening (if separate then spec.separator else []) =
        none := by
      cases separate with
      | true => exact hspec.separator
      | false => rfl
    have hscope : (spec.scope s.nextId).Named := ⟨hspec.item, hspec.index⟩
    have hpassed := closedAll_feedAll hscope hseparator hclosed hfeed
    have hwithin := EmittedWithin.rename hspec.item hspec.index hkeeps hemitted
    refine ⟨((Loop.keeps_enter hspec.item hspec.index element s).trans hkeeps).trans hlater,
      _, hpassed.append hclosed', ?_⟩
    beta_reduce
    rw [Loop.visitsPasses, hbody.visits, Visit.occurrences_append]
    exact List.rel_append (EmittedWithin.keeps hwithin hlater) hemitted'

/-- A text that may be absent brings no placeholder. -/
theorem closedAll_toList {text : Option Text}
    (h : ∀ content ∈ text, Text.breakOn parameter.opening content = none) :
    ClosedAll text.toList [] := by
  cases text with
  | none => exact .nil
  | some content => exact .single (.of_breakOn (h content rfl))

/-- A loop captures variables, its own included, if its body does. -/
theorem loop_captures {spec : Loop} (hspec : spec.Capturing) {body : Node}
    (h : (render body).Captures (visits body)) :
    (render (.loop spec body)).Captures (visits (.loop spec body)) := by
  intro outer s t a chunks hgives
  obtain ⟨-, hrun⟩ := gives_loop hgives
  obtain ⟨elements, v, hevaluate, hcase⟩ := Loop.gives_run hrun
  have hkeeps := (quiet_evaluateLoop _ _).keeps hevaluate
  rw [visits, hevaluate.visits, Visit.occurrences_choice_cons]
  rcases hcase with ⟨rfl, rfl, rfl⟩ | ⟨-, inside, w, hpasses, rfl, rfl⟩
  · exact ⟨hkeeps, [], .nil, .nil⟩
  · obtain ⟨hlater, bodies, hclosed, hemitted⟩ :=
      passes_captures hspec h elements false outer hpasses
    have hexit := Loop.keeps_exit hspec.item hspec.index w
    refine ⟨(hkeeps.trans hlater).trans hexit, bodies, ?_, EmittedWithin.keeps hemitted hexit⟩
    have hopened := (closedAll_toList hspec.opening).append hclosed
    have haround := hopened.append (closedAll_toList hspec.closing)
    rw [List.nil_append, List.append_nil] at haround
    exact haround

/-- Every such node captures the variables of loops. -/
theorem Capturing.captures {node : Node} (h : node.Capturing) :
    (render node).Captures (visits node) := by
  induction h with
  | mixed _ ih =>
    intro outer s t a chunks hgives
    obtain ⟨-, hall⟩ := gives_mixed hgives
    rw [visits]
    exact renderAll_captures ih outer hall
  | @text content hcontent =>
    intro outer s t a chunks hgives
    obtain ⟨-, rfl, rfl⟩ := gives_text.mp hgives
    refine ⟨.withMemory _ _, parameter.bodies content, .single hcontent.closed, ?_⟩
    rw [visits, Visit.occurrences_text_cons, Visit.occurrences_nil, List.append_nil,
      List.forall₂_map_left_iff, List.forall₂_same]
    exact fun body _ => EmittedWithin.of_outer outer _ body
  | @cond test body _ ih =>
    intro outer s t a chunks hgives
    obtain ⟨u, htest, hcase⟩ := gives_cond hgives
    have hkeeps := (quiet_evaluateTest test).keeps htest
    rw [visits, htest.visits, Visit.occurrences_choice_cons]
    rcases hcase with ⟨rfl, b, hbody⟩ | ⟨rfl, rfl, rfl⟩
    · obtain ⟨hlater, hinside⟩ := ih outer hbody
      exact ⟨hkeeps.trans hlater, hinside⟩
    · exact ⟨hkeeps, [], .nil, .nil⟩
  | @choose branches otherwise _ _ ih ihlast =>
    intro outer s t a chunks hgives
    obtain ⟨taken, c, u, hfirst, hcase⟩ := gives_choose hgives
    obtain ⟨hkeeps, bodies, hclosed, hemitted⟩ :=
      renderFirst_captures ih outer hfirst
    rw [visits, hfirst.visits, Visit.occurrences_append]
    rcases hcase with ⟨rfl, -, rfl, rfl⟩ | ⟨rfl, -, hlast⟩
    · rw [if_pos rfl, Visit.occurrences_nil, List.append_nil]
      exact ⟨hkeeps, bodies, hclosed, hemitted⟩
    · rw [if_neg (by decide)]
      rcases hlast with ⟨node, b, d, rfl, hnode, rfl⟩ | ⟨rfl, rfl, rfl⟩
      · obtain ⟨hlater, more, hclosed', hemitted'⟩ := ihlast node rfl outer hnode
        rw [visitsLast]
        exact ⟨hkeeps.trans hlater, bodies ++ more, hclosed.append hclosed',
          List.rel_append (EmittedWithin.keeps hemitted hlater) hemitted'⟩
      · rw [visitsLast, Visit.occurrences_nil, List.append_nil]
        exact ⟨hkeeps, bodies, hclosed, hemitted⟩
  | @trim rule body hrule _ ih =>
    intro outer s t a chunks hgives
    obtain ⟨inside, hbody, rfl⟩ := gives_trim.mp hgives
    obtain ⟨hkeeps, bodies, hclosed, hemitted⟩ := ih outer hbody
    rw [visits]
    exact ⟨hkeeps, bodies, .single (hrule.closed_apply (closed_joinChunks .nil hclosed)), hemitted⟩
  | loop hspec _ ih => exact loop_captures hspec ih

end Node

end SqlTemplate
