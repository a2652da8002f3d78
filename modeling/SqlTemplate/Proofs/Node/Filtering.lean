import SqlTemplate.Proofs.Node.Induction
import SqlTemplate.Proofs.Render.Compatible

/-!
# Nodes with another filter

The filter of a node is that of all the texts in it that values are spliced into. Two nodes that
differ in their filters only are rendered alike, as far as texts are spliced in alike.
-/

namespace SqlTemplate.Node

mutual

/-- The node with one filter for all the texts in it that values are spliced into. -/
def filtered (filter : Option Filter) : Node → Node
  | .mixed children => .mixed (filteredAll filter children)
  | .text content => .text content
  | .spliced content _ => .spliced content filter
  | .cond test body => .cond test (filtered filter body)
  | .choose branches otherwise =>
    .choose (filteredBranches filter branches) (filteredLast filter otherwise)
  | .trim rule body => .trim rule (filtered filter body)
  | .loop spec body => .loop spec (filtered filter body)
  | .bind name value => .bind name value

/-- Several nodes with one filter. -/
def filteredAll (filter : Option Filter) : List Node → List Node
  | [] => []
  | node :: rest => filtered filter node :: filteredAll filter rest

/-- The branches of a choice with one filter. -/
def filteredBranches (filter : Option Filter) : List (Text × Node) → List (Text × Node)
  | [] => []
  | (test, body) :: rest => (test, filtered filter body) :: filteredBranches filter rest

/-- The last node of a choice with another filter. -/
def filteredLast (filter : Option Filter) : Option Node → Option Node
  | none => none
  | some node => some (filtered filter node)

end

/-- A filter makes no node dynamic, and none static. -/
theorem isDynamic_filtered (filter : Option Filter) (node : Node) :
    (node.filtered filter).isDynamic = node.isDynamic := by
  induction node using Node.inductionOn with
  | mixed children ih =>
    rw [filtered, isDynamic, isDynamic]
    induction children with
    | nil => rfl
    | cons child rest ihrest =>
      obtain ⟨hchild, hrest⟩ := List.forall_mem_cons.mp ih
      rw [filteredAll, anyDynamic, anyDynamic, hchild, ihrest hrest]
  | _ => rfl

/-- A node that is not dynamic has nothing to filter. -/
theorem filtered_of_isDynamic_eq_false {filter : Option Filter} {node : Node}
    (h : node.isDynamic = false) : node.filtered filter = node := by
  induction node using Node.inductionOn with
  | mixed children ih =>
    rw [isDynamic] at h
    rw [filtered]
    congr 1
    induction children with
    | nil => rfl
    | cons child rest ihrest =>
      rw [anyDynamic, Bool.or_eq_false_iff] at h
      obtain ⟨hchild, hrest⟩ := List.forall_mem_cons.mp ih
      rw [filteredAll, hchild h.1, ihrest hrest h.2]
  | text content => rfl
  | _ => cases h

variable {R : ∀ ⦃α : Type⦄, Render α → Render α → Prop} {first second : Option Filter}

/-- Nodes one after another are related if each of them is. -/
theorem renderAll_filtered (hR : Render.Compatible R) {children : List Node}
    (h : ∀ node ∈ children, R (render (node.filtered first)) (render (node.filtered second))) :
    R (renderAll (filteredAll first children)) (renderAll (filteredAll second children)) := by
  induction children with
  | nil => exact hR.pure ()
  | cons child rest ih =>
    obtain ⟨hchild, hrest⟩ := List.forall_mem_cons.mp h
    rw [filteredAll, filteredAll, renderAll, renderAll]
    exact hR.bind hchild fun _ => ih hrest

/-- Choices are related if their branches are. -/
theorem renderFirst_filtered (hR : Render.Compatible R) {branches : List (Text × Node)}
    (h : ∀ branch ∈ branches,
      R (render (branch.2.filtered first)) (render (branch.2.filtered second))) :
    R (renderFirst (filteredBranches first branches))
      (renderFirst (filteredBranches second branches)) := by
  induction branches with
  | nil =>
    rw [filteredBranches, filteredBranches, renderFirst]
    exact hR.pure false
  | cons branch rest ih =>
    obtain ⟨hbranch, hrest⟩ := List.forall_mem_cons.mp h
    obtain ⟨test, body⟩ := branch
    rw [filteredBranches, filteredBranches, renderFirst, renderFirst]
    refine hR.bind (hR.evaluateTest test) fun holds => ?_
    cases holds with
    | true => exact hR.bind hbranch fun _ => hR.pure true
    | false => exact ih hrest

/-- Nodes that differ in their filters only are related wherever splicing is. -/
theorem render_filtered (hR : Render.Compatible R)
    (hsplice : ∀ source, R (splice first source) (splice second source)) (node : Node) :
    R (render (node.filtered first)) (render (node.filtered second)) := by
  induction node using Node.inductionOn with
  | mixed children ih =>
    rw [filtered, filtered, render, render]
    exact hR.bind (renderAll_filtered hR ih) fun _ => hR.pure true
  | text content =>
    rw [filtered, filtered, render]
    exact hR.bind (hR.emit content) fun _ => hR.pure true
  | spliced content filter =>
    rw [filtered, filtered, render, render]
    exact hR.bind (hR.scan _ hsplice content) fun _ => hR.bind (hR.emit _) fun _ => hR.pure true
  | cond test body ih =>
    rw [filtered, filtered, render, render]
    refine hR.bind (hR.evaluateTest test) fun holds => ?_
    cases holds with
    | true => exact hR.bind ih fun _ => hR.pure true
    | false => exact hR.pure false
  | choose branches otherwise ih ihlast =>
    rw [filtered, filtered, render.eq_def, render.eq_def]
    refine hR.bind (renderFirst_filtered hR ih) fun taken => ?_
    cases taken with
    | true => exact hR.pure true
    | false =>
      cases otherwise with
      | none => exact hR.pure false
      | some node => exact hR.bind (ihlast node rfl) fun _ => hR.pure true
  | trim rule body ih =>
    rw [filtered, filtered, render, render]
    exact hR.bind (hR.within _ ih) fun _ => hR.bind (hR.emit _) fun _ => hR.pure _
  | loop spec body ih =>
    rw [filtered, filtered, render, render]
    exact hR.bind (hR.run ih spec) fun _ => hR.pure true
  | bind name value =>
    rw [filtered, filtered, render]
    exact hR.bind (hR.evaluate value) fun _ => hR.bind (hR.bindName name _) fun _ => hR.pure true

end SqlTemplate.Node
