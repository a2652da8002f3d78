import SqlTemplate.Proofs.Node.Steps
import SqlTemplate.Proofs.Render.Names

/-!
# What a loop leaves behind

A loop takes the plain names of its variables away when it is done, but what a variable was in one
of its passes stays under the name for that pass. No later pass of any loop overwrites it.
-/

namespace SqlTemplate

open LoopScope

/-- A later state keeps an earlier one: no number comes back, and the names for earlier passes mean
what they meant. -/
structure RenderState.Keeps (s t : RenderState) : Prop where
  nextId : s.nextId ≤ t.nextId
  passes : ∀ name id, id < s.nextId →
    t.bindings.bound? (passName name id) = s.bindings.bound? (passName name id)

namespace RenderState.Keeps

/-- A state keeps itself, whatever becomes of the memory. -/
theorem withMemory (s : RenderState) (memory : Memory) : s.Keeps { s with memory } :=
  ⟨Nat.le_refl _, fun _ _ _ => rfl⟩

/-- What is kept twice is kept. -/
theorem trans {s t u : RenderState} (h : s.Keeps t) (hlater : t.Keeps u) : s.Keeps u where
  nextId := Nat.le_trans h.nextId hlater.nextId
  passes name id hid := by
    rw [hlater.passes name id (Nat.lt_of_lt_of_le hid h.nextId), h.passes name id hid]

end RenderState.Keeps

/-- A quiet rendering keeps its state. -/
theorem Render.Quiet.keeps {α : Type} {x : Render α} (hx : x.Quiet) {s t : RenderState} {a : α}
    {chunks : List Text} (h : x.Gives s a chunks t) : s.Keeps t := by
  obtain ⟨-, memory, rfl⟩ := hx.of_gives h
  exact .withMemory s memory

namespace Bindings

/-- An entry put in place is found, and so are the others. -/
theorem bound?_insert (bindings : Bindings) (name other : String) (value : Value) :
    (bindings.insert name value).bound? other =
      if other = name then some value else bindings.bound? other := Fields.get?_insert ..

/-- An entry that is taken away is gone, and no other is. -/
theorem bound?_remove (bindings : Bindings) (name other : String) :
    (bindings.remove name).bound? other = if other = name then none else bindings.bound? other :=
  Fields.get?_erase ..

/-- A variable changes no name for a pass but its own. -/
theorem bound?_insertVariable {name : Option String} (hname : ∀ n ∈ name, IsName n)
    (bindings : Bindings) (value : Value) (number : Nat) (other : String) (id : Nat) :
    (bindings.insertVariable name value number).bound? (passName other id) =
      if name = some other ∧ id = number then some value
      else bindings.bound? (passName other id) := by
  cases name with
  | none => simp [insertVariable]
  | some name =>
    have hplain : passName other id ≠ name := ((hname name rfl).ne_passName other id).symm
    rw [insertVariable, bound?_insert, if_neg hplain, bound?_insert]
    congr 1
    rw [Option.some.injEq, eq_iff_iff]
    constructor
    · intro h
      have hid := id_eq_of_passName_eq h
      exact ⟨(name_eq_of_passName_eq h).symm, hid⟩
    · rintro ⟨rfl, rfl⟩
      rfl

/-- Taking a variable away leaves other names alone. -/
theorem bound?_removeVariable_of_ne {own : Option String} {name : String}
    (h : own ≠ some name) (bindings : Bindings) :
    (bindings.removeVariable own).bound? name = bindings.bound? name := by
  cases own with
  | none => rfl
  | some other =>
    have hne : name ≠ other := by
      rintro rfl
      exact h rfl
    rw [removeVariable, bound?_remove, if_neg hne]

/-- Taking a variable away changes no name for a pass. -/
theorem bound?_removeVariable {name : Option String} (hname : ∀ n ∈ name, IsName n)
    (bindings : Bindings) (other : String) (id : Nat) :
    (bindings.removeVariable name).bound? (passName other id) =
      bindings.bound? (passName other id) :=
  bound?_removeVariable_of_ne (fun h => (hname _ h).ne_passName other id rfl) bindings

end Bindings

namespace Loop

variable {spec : Loop}

/-- Entering a pass keeps the state. -/
theorem keeps_enter (hitem : ∀ n ∈ spec.item, IsName n) (hindex : ∀ n ∈ spec.index, IsName n)
    (element : LoopElement) (s : RenderState) : s.Keeps (spec.enter element s) where
  nextId := Nat.le_succ _
  passes name id hid := by
    rw [enter, Bindings.bound?_insertVariable hitem, if_neg (by omega),
      Bindings.bound?_insertVariable hindex, if_neg (by omega)]

/-- The item has its name for the pass. -/
theorem bound?_enter_item (hitem : ∀ n ∈ spec.item, IsName n) {name : String}
    (hname : spec.item = some name) (element : LoopElement) (s : RenderState) :
    (spec.enter element s).bindings.bound? (passName name s.nextId) = some element.item := by
  rw [enter, Bindings.bound?_insertVariable hitem, if_pos ⟨hname, rfl⟩]

/-- The index has its name for the pass, unless the item has it. -/
theorem bound?_enter_index (hitem : ∀ n ∈ spec.item, IsName n)
    (hindex : ∀ n ∈ spec.index, IsName n) {name : String} (hother : spec.item ≠ some name)
    (hname : spec.index = some name) (element : LoopElement) (s : RenderState) :
    (spec.enter element s).bindings.bound? (passName name s.nextId) = some element.index := by
  rw [enter, Bindings.bound?_insertVariable hitem, if_neg (fun h => hother h.1),
    Bindings.bound?_insertVariable hindex, if_pos ⟨hname, rfl⟩]

/-- Leaving a loop keeps the state. -/
theorem keeps_exit (hitem : ∀ n ∈ spec.item, IsName n) (hindex : ∀ n ∈ spec.index, IsName n)
    (s : RenderState) : s.Keeps (spec.exit s) where
  nextId := Nat.le_refl _
  passes name id _ := by
    rw [exit, Bindings.bound?_removeVariable hindex, Bindings.bound?_removeVariable hitem]

end Loop

end SqlTemplate
