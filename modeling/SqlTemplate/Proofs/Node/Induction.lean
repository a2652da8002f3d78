import SqlTemplate.Node.Basic

/-!
# Induction on nodes

A node holds other nodes in lists, in pairs with their conditions and under options. The induction
principle here hands out the hypothesis for each of them.
-/

namespace SqlTemplate.Node

/-- What holds of a node whenever it holds of the nodes directly below it holds of all nodes. -/
theorem inductionOn {motive : Node → Prop}
    (mixed : ∀ children, (∀ node ∈ children, motive node) → motive (.mixed children))
    (text : ∀ content, motive (.text content))
    (spliced : ∀ content filter, motive (.spliced content filter))
    (cond : ∀ test body, motive body → motive (.cond test body))
    (choose : ∀ branches otherwise, (∀ branch ∈ branches, motive branch.2) →
      (∀ node ∈ otherwise, motive node) → motive (.choose branches otherwise))
    (trim : ∀ rule body, motive body → motive (.trim rule body))
    (loop : ∀ spec body, motive body → motive (.loop spec body))
    (bind : ∀ name value, motive (.bind name value)) (node : Node) : motive node := by
  refine @Node.rec motive (fun nodes => ∀ node ∈ nodes, motive node)
    (fun branches => ∀ branch ∈ branches, motive branch.2)
    (fun otherwise => ∀ node ∈ otherwise, motive node) (fun branch => motive branch.2)
    mixed text spliced cond choose trim loop bind ?_ ?_ ?_ ?_ ?_ ?_ ?_ node
  · intro node hnode
    cases hnode
  · intro first rest hfirst hrest
    exact List.forall_mem_cons.mpr ⟨hfirst, hrest⟩
  · intro branch hbranch
    cases hbranch
  · intro first rest hfirst hrest
    exact List.forall_mem_cons.mpr ⟨hfirst, hrest⟩
  · intro node hnode
    cases hnode
  · intro node hsome other hother
    obtain rfl := Option.mem_some.mp hother
    exact hsome
  · intro test node hnode
    exact hnode

end SqlTemplate.Node
