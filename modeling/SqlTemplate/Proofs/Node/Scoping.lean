import SqlTemplate.Proofs.Node.Keeping

/-!
# Names around a loop

A loop puts its variables under their plain names in each of its passes, and takes these names away
when it is done. What the names stood for before is lost. All other names stand for what they did
before, those for passes apart.
-/

namespace SqlTemplate

open LoopScope Render

/-- What comes of the result and the state of a rendering that succeeds. -/
def Outcome.followed {α β : Type} (o : Outcome α) (next : α → RenderState → List β) : List β :=
  match o.result with
  | .ok a => next a o.state
  | .error _ => []

/-- A success is followed from its result and state. -/
theorem Render.Gives.followed {α β : Type} {x : Render α} {s t : RenderState} {a : α}
    {chunks : List Text} (h : x.Gives s a chunks t) (next : α → RenderState → List β) :
    (x s).followed next = next a t := by
  rw [Outcome.followed, h]

namespace Loop

/-- The names of the variables. -/
def names (spec : Loop) : List String := spec.item.toList ++ spec.index.toList

/-- The names that passes over elements enter, if `inside` are those that the body enters. -/
def enteredPasses (spec : Loop) (body : Render Bool) (inside : RenderState → List String) :
    List LoopElement → RenderState → List String
  | [], _ => []
  | element :: rest, s =>
    spec.names ++ inside (spec.enter element s) ++
      (body (spec.enter element s)).followed fun _ t => enteredPasses spec body inside rest t

end Loop

namespace Node

/-- Nodes without a binding of their own, loop variables apart. -/
inductive BindFree : Node → Prop
  | mixed {children : List Node} (h : ∀ node ∈ children, BindFree node) :
    BindFree (.mixed children)
  | text (content : Text) : BindFree (.text content)
  | spliced (content : Text) (filter : Option Filter) : BindFree (.spliced content filter)
  | cond {test : Text} {body : Node} (h : BindFree body) : BindFree (.cond test body)
  | choose {branches : List (Text × Node)} {otherwise : Option Node}
    (h : ∀ branch ∈ branches, BindFree branch.2) (hlast : ∀ node ∈ otherwise, BindFree node) :
    BindFree (.choose branches otherwise)
  | trim {rule : TrimRule} {body : Node} (h : BindFree body) : BindFree (.trim rule body)
  | loop {spec : Loop} {body : Node} (h : BindFree body) : BindFree (.loop spec body)

mutual

/-- The names of the variables of all loops that come to a pass when a node is rendered. -/
def entered : Node → RenderState → List String
  | .mixed children, s => enteredAll children s
  | .text _, _ => []
  | .spliced _ _, _ => []
  | .cond test body, s =>
    (evaluateTest test s).followed fun holds t => if holds then entered body t else []
  | .choose branches otherwise, s =>
    enteredFirst branches s ++
      (renderFirst branches s).followed fun taken t => if taken then [] else enteredLast otherwise t
  | .trim _ body, s => entered body s
  | .loop spec body, s =>
    (evaluateLoop spec.collection spec.nullable s).followed fun elements t =>
      spec.enteredPasses (render body) (fun u => entered body u) elements t
  | .bind _ _, _ => []

/-- The names for several nodes one after another. -/
def enteredAll : List Node → RenderState → List String
  | [], _ => []
  | node :: rest, s => entered node s ++ (render node s).followed fun _ t => enteredAll rest t

/-- The names for the first branch whose condition holds. -/
def enteredFirst : List (Text × Node) → RenderState → List String
  | [], _ => []
  | (test, body) :: rest, s =>
    (evaluateTest test s).followed fun holds t =>
      if holds then entered body t else enteredFirst rest t

/-- The names for the last node of a choice, if it has one. -/
def enteredLast : Option Node → RenderState → List String
  | none, _ => []
  | some node, s => entered node s

end

end Node

/-- A name is unbound later if it is among those that are lost, else it stands for what it did. -/
def RenderState.Loses (name : String) (lost : List String) (s t : RenderState) : Prop :=
  t.bindings.bound? name = if name ∈ lost then none else s.bindings.bound? name

/-- Of the names that a rendering enters each is lost, and no others. -/
def Render.Loses {α : Type} (x : Render α) (name : String) (lost : RenderState → List String) :
    Prop :=
  ∀ ⦃s t : RenderState⦄ ⦃a : α⦄ ⦃chunks : List Text⦄, x.Gives s a chunks t → s.Loses name (lost s) t

namespace RenderState.Loses

variable {name : String} {lost more : List String} {s t u : RenderState}

/-- A state loses nothing, whatever becomes of the memory. -/
theorem withMemory (name : String) (s : RenderState) (memory : Memory) :
    s.Loses name [] { s with memory } := by
  simp [RenderState.Loses]

/-- What is lost first and what is lost later is lost in the end. -/
theorem trans (h : s.Loses name lost t) (hlater : t.Loses name more u) :
    s.Loses name (lost ++ more) u := by
  unfold RenderState.Loses at *
  rw [hlater, h]
  by_cases hlost : name ∈ lost <;> simp [hlost]

end RenderState.Loses

/-- A quiet rendering loses nothing. -/
theorem Render.Quiet.loses {α : Type} {x : Render α} (hx : x.Quiet) (name : String) :
    x.Loses name fun _ => [] := by
  intro s t a chunks h
  obtain ⟨-, memory, rfl⟩ := hx.of_gives h
  exact .withMemory name s memory

/-- A variable that is bound changes no plain name but its own. -/
theorem Bindings.bound?_insertVariable_of_ne {own : Option String} {name : String}
    (hname : IsPlain name) (h : own ≠ some name) (bindings : Bindings) (value : Value) (id : Nat) :
    (bindings.insertVariable own value id).bound? name = bindings.bound? name := by
  cases own with
  | none => rfl
  | some other =>
    have hne : name ≠ other := by
      rintro rfl
      exact h rfl
    rw [insertVariable, bound?_insert, if_neg hne, bound?_insert,
      if_neg (hname.ne_passName other id)]

namespace Loop

variable {spec : Loop} {name : String}

/-- A name is that of a variable or of none. -/
theorem mem_names : name ∈ spec.names ↔ spec.item = some name ∨ spec.index = some name := by
  simp [names]

/-- Entering a pass changes no plain name but those of the variables. -/
theorem enter_loses (hname : IsPlain name) (hother : name ∉ spec.names) (element : LoopElement)
    (s : RenderState) : s.Loses name spec.names (spec.enter element s) := by
  rw [RenderState.Loses, if_neg hother]
  rw [mem_names, not_or] at hother
  rw [enter, Bindings.bound?_insertVariable_of_ne hname hother.1,
    Bindings.bound?_insertVariable_of_ne hname hother.2]

/-- Leaving a loop takes the names of the variables away, and no others. -/
theorem exit_loses (name : String) (s : RenderState) : s.Loses name spec.names (spec.exit s) := by
  unfold RenderState.Loses exit
  by_cases hindex : spec.index = some name
  · rw [if_pos (mem_names.mpr (.inr hindex)), hindex]
    exact (Bindings.bound?_remove ..).trans (if_pos rfl)
  · dsimp only
    rw [Bindings.bound?_removeVariable_of_ne hindex]
    by_cases hitem : spec.item = some name
    · rw [if_pos (mem_names.mpr (.inl hitem)), hitem]
      exact (Bindings.bound?_remove ..).trans (if_pos rfl)
    · rw [Bindings.bound?_removeVariable_of_ne hitem, if_neg]
      rw [mem_names, not_or]
      exact ⟨hitem, hindex⟩

/-- Passes lose the plain names that they enter. The names of the variables come and go with the
loop as a whole. -/
theorem passes_loses {body : Render Bool} {inside : RenderState → List String}
    (hbody : body.Loses name inside) (hname : IsPlain name) (hother : name ∉ spec.names)
    {elements : List LoopElement} {separate : Bool} {s t : RenderState} {u : Unit}
    {chunks : List Text} (h : (passes spec body separate elements).Gives s u chunks t) :
    s.Loses name (spec.enteredPasses body inside elements s) t := by
  induction elements generalizing separate s chunks with
  | nil =>
    obtain ⟨rfl, rfl⟩ := gives_passes_nil.mp h
    exact .withMemory name t t.memory
  | cons element rest ih =>
    obtain ⟨_, c, v, d, hpass, hrest, rfl⟩ := gives_passes_cons.mp h
    obtain ⟨contributed, chunks, last, hinside, -, -⟩ := gives_pass.mp hpass
    rw [enteredPasses, hinside.followed]
    exact ((enter_loses hname hother element s).trans (hbody hinside)).trans (ih hrest)

/-- The names of the variables are entered if there is an element. -/
theorem mem_enteredPasses {body : Render Bool} {inside : RenderState → List String}
    {elements : List LoopElement} (hne : elements ≠ []) (hname : name ∈ spec.names)
    (s : RenderState) : name ∈ spec.enteredPasses body inside elements s := by
  obtain ⟨element, rest, rfl⟩ := List.exists_cons_of_ne_nil hne
  rw [enteredPasses]
  exact List.mem_append_left _ (List.mem_append_left _ hname)

end Loop

namespace Node

variable {name : String}

/-- Several nodes lose the names that they enter if each of them does. -/
theorem renderAll_loses {children : List Node}
    (h : ∀ node ∈ children, (render node).Loses name (entered node)) :
    (renderAll children).Loses name (enteredAll children) := by
  intro s t a chunks hgives
  induction children generalizing s chunks with
  | nil =>
    obtain ⟨rfl, rfl⟩ := gives_renderAll_nil.mp hgives
    exact .withMemory name t t.memory
  | cons node rest ih =>
    obtain ⟨_, c, v, d, hfirst, hrest, rfl⟩ := gives_renderAll_cons.mp hgives
    rw [enteredAll, hfirst.followed]
    exact (h node List.mem_cons_self hfirst).trans
      (ih (fun n hn => h n (List.mem_cons_of_mem _ hn)) hrest)

/-- The search for a branch loses the names that it enters if each branch does. -/
theorem renderFirst_loses {branches : List (Text × Node)}
    (h : ∀ branch ∈ branches, (render branch.2).Loses name (entered branch.2)) :
    (renderFirst branches).Loses name (enteredFirst branches) := by
  intro s t a chunks hgives
  induction branches generalizing s with
  | nil =>
    obtain ⟨rfl, rfl, rfl⟩ := gives_renderFirst_nil.mp hgives
    exact .withMemory name t t.memory
  | cons branch rest ih =>
    obtain ⟨test, body⟩ := branch
    obtain ⟨holds, u, htest, hcase⟩ := gives_renderFirst_cons hgives
    have hquiet := (quiet_evaluateTest test).loses name htest
    rw [enteredFirst, htest.followed]
    rcases hcase with ⟨rfl, -, b, hbody⟩ | ⟨rfl, hrest⟩
    · exact hquiet.trans (h _ List.mem_cons_self hbody)
    · exact hquiet.trans (ih (fun b hb => h b (List.mem_cons_of_mem _ hb)) hrest)

/-- A loop loses the plain names that it enters if its body does. -/
theorem loop_loses {spec : Loop} {body : Node} (hbody : (render body).Loses name (entered body))
    (hname : IsPlain name) : (render (.loop spec body)).Loses name (entered (.loop spec body)) := by
  intro s t a chunks h
  obtain ⟨-, hrun⟩ := gives_loop h
  obtain ⟨elements, u, heval, hcase⟩ := Loop.gives_run hrun
  have hquiet := (quiet_evaluateLoop _ _).loses name heval
  rw [entered, heval.followed]
  rcases hcase with ⟨rfl, -, rfl⟩ | ⟨hne, inside, w, hpasses, -, rfl⟩
  · exact hquiet
  · have hexit : w.Loses name spec.names (spec.exit w) := Loop.exit_loses name w
    by_cases hown : name ∈ spec.names
    · rw [RenderState.Loses, if_pos (Loop.mem_enteredPasses hne hown u), hexit, if_pos hown]
    · refine hquiet.trans ?_
      rw [RenderState.Loses, hexit, if_neg hown]
      exact Loop.passes_loses hbody hname hown hpasses

/-- A node without a binding of its own loses the plain names that it enters, and no others. -/
theorem BindFree.loses {node : Node} (h : node.BindFree) (hname : IsPlain name) :
    (render node).Loses name (entered node) := by
  induction h with
  | mixed _ ih =>
    intro s t a chunks hgives
    rw [entered]
    exact renderAll_loses ih (gives_mixed hgives).2
  | text content =>
    intro s t a chunks hgives
    obtain ⟨-, -, rfl⟩ := gives_text.mp hgives
    rw [entered]
    exact .withMemory name t t.memory
  | spliced content filter =>
    intro s t a chunks hgives
    obtain ⟨_, -, hscan, -⟩ := gives_splicedNode hgives
    rw [entered]
    exact (Quiet.scan (quiet_splice filter) _ _).loses name hscan
  | @cond test body _ ih =>
    intro s t a chunks hgives
    obtain ⟨u, htest, hcase⟩ := gives_cond hgives
    have hquiet := (quiet_evaluateTest test).loses name htest
    rw [entered, htest.followed]
    rcases hcase with ⟨rfl, b, hbody⟩ | ⟨rfl, -, rfl⟩
    · exact hquiet.trans (ih hbody)
    · exact hquiet
  | @choose branches otherwise _ _ ih ihlast =>
    intro s t a chunks hgives
    obtain ⟨taken, c, u, hfirst, hcase⟩ := gives_choose hgives
    have hbranches := renderFirst_loses ih hfirst
    rw [entered, hfirst.followed]
    rcases hcase with ⟨rfl, -, -, rfl⟩ | ⟨rfl, -, ⟨node, b, d, rfl, hnode, -⟩ | ⟨rfl, -, rfl⟩⟩
    · exact hbranches.trans (.withMemory name t t.memory)
    · exact hbranches.trans (ihlast node rfl hnode)
    · exact hbranches.trans (.withMemory name t t.memory)
  | trim _ ih =>
    intro s t a chunks hgives
    obtain ⟨inside, hbody, -⟩ := gives_trim.mp hgives
    rw [entered]
    exact ih hbody
  | loop _ ih => exact loop_loses ih hname

/-- A loop over no elements leaves all bindings as they were. After a loop over elements the names
of its variables are unbound. Whether or not there are elements, a plain name is unbound if it is
that of a variable of the loop or of a loop in its body that has come to a pass, and any other
stands for what it did before. -/
theorem bindings_around_loop {spec : Loop} {body : Node} (hbody : body.BindFree)
    {s t : RenderState} {contributed : Bool} {chunks : List Text}
    (h : (render (.loop spec body)).Gives s contributed chunks t) :
    ∃ elements u, (evaluateLoop spec.collection spec.nullable).Gives s elements [] u ∧
      (elements = [] → t.bindings = s.bindings) ∧
      (elements ≠ [] → ∀ name ∈ spec.names, t.bindings.bound? name = none) ∧
      ∀ name, IsPlain name → t.bindings.bound? name =
        if name ∈ entered (.loop spec body) s then none else s.bindings.bound? name := by
  obtain ⟨-, hrun⟩ := gives_loop h
  obtain ⟨elements, u, heval, hcase⟩ := Loop.gives_run hrun
  refine ⟨elements, u, heval, ?_, ?_, fun name hname => (BindFree.loop hbody).loses hname h⟩
  · obtain ⟨-, memory, rfl⟩ := (quiet_evaluateLoop _ _).of_gives heval
    rintro rfl
    rcases hcase with ⟨-, -, rfl⟩ | ⟨hne, -⟩
    · rfl
    · exact absurd rfl hne
  · intro hne name hname
    rcases hcase with ⟨hnil, -⟩ | ⟨-, inside, w, -, -, rfl⟩
    · exact absurd hnil hne
    · rw [Loop.exit_loses name w, if_pos hname]

/-- The variables of a loop and of one in its body are unbound afterwards, whatever they stood for.
The variable of a loop without elements, and a name that is no variable, stand for what they did. -/
theorem bindings_around_nested_loops :
    let nested : Loop := { collection := "ys".toList, item := some "y" }
    let empty : Loop := { collection := "zs".toList, item := some "z" }
    let spec : Loop := { collection := "xs".toList, item := some "x", index := some "i" }
    let body : Node := .mixed
      [.cond "x == 2".toList (.loop nested (.text ['a'])), .loop empty (.text ['b'])]
    let parameter : Value := .obj [("xs", .arr [.ofNat 1, .ofNat 2]),
      ("ys", .arr [.ofNat 3]), ("zs", .arr [])]
    let outer : Bindings := ["x", "y", "z", "other"].foldl (·.insert · (.ofNat 7))
      (.seed parameter none)
    let s : RenderState := { bindings := outer, memory := ⟨.empty 8, []⟩ }
    body.BindFree ∧
      ∃ chunks t elements u, (render (.loop spec body)).Gives s true chunks t ∧
        (evaluateLoop spec.collection spec.nullable).Gives s elements [] u ∧ elements ≠ [] ∧
        (∀ name ∈ ["x", "i", "y"], t.bindings.bound? name = none) ∧
        ∀ name ∈ ["z", "other"], t.bindings.bound? name = s.bindings.bound? name := by
  intro nested empty spec body parameter outer s
  have hbody : body.BindFree := by
    refine .mixed ?_
    simp only [List.forall_mem_cons, List.not_mem_nil, false_imp_iff, implies_true, and_true]
    exact ⟨.cond (.loop (.text _)), .loop (.text _)⟩
  have h : (render (.loop spec body)).Gives s true _ _ := gives_of_toOption (by decide +kernel)
  have hsome : (evaluateLoop spec.collection spec.nullable s).result.toOption.map List.length =
      some 2 := by
    decide +kernel
  have hlost : ∀ name ∈ ["x", "i", "y"], IsPlain name ∧
      name ∈ entered (.loop spec body) s := by
    decide +kernel
  have hkept : ∀ name ∈ ["z", "other"], IsPlain name ∧
      name ∉ entered (.loop spec body) s := by
    decide +kernel
  obtain ⟨elements, u, heval, -, -, hnames⟩ := bindings_around_loop hbody h
  rw [heval] at hsome
  have hne : elements ≠ [] := List.ne_nil_of_length_eq_add_one (Option.some.inj hsome)
  refine ⟨hbody, _, _, elements, u, h, heval, hne, fun name hname => ?_, fun name hname => ?_⟩
  · obtain ⟨hplain, hentered⟩ := hlost name hname
    rw [hnames name hplain, if_pos hentered]
  · obtain ⟨hplain, hentered⟩ := hkept name hname
    rw [hnames name hplain, if_neg hentered]

/-- A loop does not leave all bindings as they were: a name that stood for a value before is unbound
after a loop that has it for its variable. -/
theorem not_bindings_kept_around_loop :
    let spec : Loop := { collection := "xs".toList, item := some "x" }
    let body : Node := .text ['a']
    let parameter : Value := .obj [("xs", .arr [.ofNat 1])]
    let s : RenderState :=
      { bindings := (Bindings.seed parameter none).insert "x" (.ofNat 7)
        memory := ⟨.empty 8, []⟩ }
    body.BindFree ∧ IsPlain "x" ∧
      ∃ chunks t, (render (.loop spec body)).Gives s true chunks t ∧
        s.bindings.bound? "x" = some (.ofNat 7) ∧ t.bindings.bound? "x" = none := by
  intro spec body parameter s
  have h : (render (.loop spec body)).Gives s true _ _ := gives_of_toOption (by decide +kernel)
  have hunbound : ((render (.loop spec body) s).state.bindings.bound? "x").isNone = true := by
    decide +kernel
  exact ⟨.text _, by decide, _, _, h, Fields.get?_insert .. |>.trans (if_pos rfl),
    Option.isNone_iff_eq_none.mp hunbound⟩

end Node

end SqlTemplate
