import SqlTemplate.Proofs.Trimming
import SqlTemplate.Template.Compile

/-!
# The grammar of templates

A template is well formed if every element in it is known, has the attributes it needs and holds
only what it may hold. Compiling accepts the well-formed templates and no others, and what it
refuses it refuses with a build error. The proof is a traversal of the template: each part of an
element decides its own condition, and the conditions of the parts in a row are joined.
-/

namespace SqlTemplate

/-- What a compilation comes to: it has a result if the condition holds, and it ends in a build
error if the condition does not hold. -/
inductive Decides {α : Type} : Except Error α → Prop → Prop
  | accepted {condition : Prop} (a : α) (h : condition) : Decides (.ok a) condition
  | refused {condition : Prop} (fault : BuildFault) (h : ¬condition) :
    Decides (.error (.build fault)) condition

namespace Decides

variable {α β : Type} {x : Except Error α} {condition other : Prop}

/-- The condition may be said in other words. -/
theorem congr (h : Decides x condition) (hiff : condition ↔ other) : Decides x other := by
  rwa [propext hiff] at h

/-- Two parts in a row accept what both of them accept. -/
theorem bind {f : α → Except Error β} (h : Decides x condition)
    (hnext : ∀ a, Decides (f a) other) : Decides (x >>= f) (condition ∧ other) := by
  cases h with
  | accepted a h => exact (hnext a).congr (by simp [h])
  | refused fault h => exact .refused fault fun hboth => h hboth.1

/-- What is made of a result decides nothing. -/
theorem map (h : Decides x condition) (f : α → β) : Decides (x >>= fun a => pure (f a)) condition :=
  (h.bind fun a => .accepted (f a) trivial).congr (by simp)

/-- There is a result exactly if the condition holds. -/
theorem exists_ok_iff (h : Decides x condition) : (∃ a, x = .ok a) ↔ condition := by
  cases h with
  | accepted a h => simp [h]
  | refused fault h => simp [h]

/-- Every failure is a build error. -/
theorem ok_or_build (h : Decides x condition) :
    (∃ a, x = .ok a) ∨ ∃ fault, x = .error (.build fault) := by
  cases h with
  | accepted a h => exact .inl ⟨a, rfl⟩
  | refused fault h => exact .inr ⟨fault, rfl⟩

end Decides

namespace Template

/-- Whether an attribute is there and says something: blanks alone do not. -/
def Given (attributes : List (String × String)) (key : String) : Prop :=
  ∃ value, attributes.lookup key = some value ∧ Text.blank value.toList = false

/-- Whether `nullable` can be read: where nothing is left of it, the configuration counts. -/
def NullableReadable (attributes : List (String × String)) : Prop :=
  ∀ value, attributes.lookup "nullable" = some value →
    Text.trim value.toList ∈ ["", "true", "false"].map String.toList

/-- What may stand in a choice: blank text, its branches, and what to do without a branch. -/
def MayBeChosen : Template → Prop
  | text content => Text.blank content.toList = true
  | element name _ _ => name ∈ ["when", "otherwise"]

/-- Whether a template says what to do without a branch. -/
def isOtherwise (template : Template) : Bool := template.name? == some "otherwise"

/-- The templates that make sense. The children of a binding count for nothing. -/
inductive WellFormed : Template → Prop
  | text (content : String) : WellFormed (text content)
  | group {name : String} {attributes : List (String × String)} {children : List Template}
    (hname : name ∈ ["trim", "where", "set", "otherwise"])
    (hchildren : ∀ child ∈ children, WellFormed child) :
    WellFormed (element name attributes children)
  | cond {name : String} {attributes : List (String × String)} {children : List Template}
    (hname : name ∈ ["if", "when"]) (htest : Given attributes "test")
    (hchildren : ∀ child ∈ children, WellFormed child) :
    WellFormed (element name attributes children)
  | loop {name : String} {attributes : List (String × String)} {children : List Template}
    (hname : name = "foreach") (hcollection : Given attributes "collection")
    (hnullable : NullableReadable attributes) (hchildren : ∀ child ∈ children, WellFormed child) :
    WellFormed (element name attributes children)
  | bind {name : String} {attributes : List (String × String)} {children : List Template}
    (hname : name = "bind") (hvariable : Given attributes "name")
    (hvalue : Given attributes "value") : WellFormed (element name attributes children)
  | choose {name : String} {attributes : List (String × String)} {children : List Template}
    (hname : name = "choose") (hparts : ∀ child ∈ children, MayBeChosen child)
    (hlast : children.countP isOtherwise ≤ 1)
    (hchildren : ∀ child ∈ children, WellFormed child) :
    WellFormed (element name attributes children)

/-- An element is well formed by the rule for its name. -/
theorem wellFormed_element_iff {name : String} {attributes : List (String × String)}
    {children : List Template} :
    WellFormed (element name attributes children) ↔
      name ∈ ["trim", "where", "set", "otherwise"] ∧ (∀ child ∈ children, WellFormed child) ∨
      name ∈ ["if", "when"] ∧ Given attributes "test" ∧ (∀ child ∈ children, WellFormed child) ∨
      name = "foreach" ∧ (∀ child ∈ children, WellFormed child) ∧ NullableReadable attributes ∧
        Given attributes "collection" ∨
      name = "bind" ∧ Given attributes "name" ∧ Given attributes "value" ∨
      name = "choose" ∧ (∀ child ∈ children, MayBeChosen child ∧ WellFormed child) ∧
        children.countP isOtherwise ≤ 1 := by
  constructor
  · intro h
    cases h with
    | group hname hchildren => exact .inl ⟨hname, hchildren⟩
    | cond hname htest hchildren => exact .inr (.inl ⟨hname, htest, hchildren⟩)
    | loop hname hcollection hnullable hchildren =>
      exact .inr (.inr (.inl ⟨hname, hchildren, hnullable, hcollection⟩))
    | bind hname hvariable hvalue => exact .inr (.inr (.inr (.inl ⟨hname, hvariable, hvalue⟩)))
    | choose hname hparts hlast hchildren =>
      exact .inr (.inr (.inr (.inr
        ⟨hname, fun child hchild => ⟨hparts child hchild, hchildren child hchild⟩, hlast⟩)))
  · rintro (⟨hname, h⟩ | ⟨hname, htest, h⟩ | ⟨hname, h, hnullable, hcollection⟩ |
      ⟨hname, hvariable, hvalue⟩ | ⟨hname, h, hlast⟩)
    · exact .group hname h
    · exact .cond hname htest h
    · exact .loop hname hcollection hnullable h
    · exact .bind hname hvariable hvalue
    · exact .choose hname (fun child hchild => (h child hchild).1) hlast
        fun child hchild => (h child hchild).2

section Attributes

variable {attributes : List (String × String)}

/-- An attribute has no text without its outer blanks if it is not there, or holds blanks only. -/
theorem trimmed?_eq_none_iff {key : String} :
    trimmed? attributes key = none ↔ ¬Given attributes key := by
  unfold trimmed? Given
  cases attributes.lookup key with
  | none => simp
  | some value => simp [Text.trim_eq_nil_iff]

/-- A required attribute has to say something. -/
theorem decides_required (name key : String) :
    Decides (required name attributes key) (Given attributes key) := by
  unfold required
  cases h : trimmed? attributes key with
  | none => exact .refused _ (trimmed?_eq_none_iff.mp h)
  | some value =>
    have hgiven : Given attributes key := by
      by_contra hnot
      rw [trimmed?_eq_none_iff.mpr hnot] at h
      cases h
    exact .accepted value hgiven

/-- Whether `null` is empty has to be readable. -/
theorem decides_nullable (config : Config) :
    Decides (nullable config attributes) (NullableReadable attributes) := by
  unfold nullable trimmed? NullableReadable
  cases attributes.lookup "nullable" with
  | none => exact .accepted _ (by simp)
  | some value =>
    by_cases hempty : Text.trim value.toList = []
    · have hnone : ((some value).map fun v => Text.trim v.toList).filter (!·.isEmpty) = none := by
        simp [hempty]
      rw [hnone]
      exact .accepted _ (by simp [hempty])
    · have hsome : ((some value).map fun v => Text.trim v.toList).filter (!·.isEmpty) =
          some (Text.trim value.toList) := by
        simp [hempty]
      rw [hsome]
      dsimp only
      split
      · rename_i htrue
        exact .accepted _ (by simp [htrue])
      · rename_i htrue
        split
        · rename_i hfalse
          exact .accepted _ (by simp [hfalse])
        · rename_i hfalse
          exact .refused _ (by simpa [hempty] using ⟨htrue, hfalse⟩)

/-- The attributes of a loop can be used exactly if its collection is given and `nullable` can be
read. -/
theorem decides_loop (config : Config) :
    Decides (loop config attributes)
      (NullableReadable attributes ∧ Given attributes "collection") :=
  (decides_nullable config).bind fun _ => (decides_required "foreach" "collection").map _

end Attributes

variable {config : Config}

mutual

/-- A template can be compiled exactly if it is well formed. -/
theorem decides_compileNode (template : Template) :
    Decides (compileNode config template) (WellFormed template) := by
  cases template with
  | text content => exact .accepted _ (.text content)
  | element name attributes children =>
    have hall := decides_compileAll children
    have hbranches := decides_compileBranches false children
    rw [compileNode.eq_def]
    dsimp only
    split
    case h_1 | h_2 | h_3 | h_8 => exact (hall.map _).congr (by simp [wellFormed_element_iff])
    case h_4 =>
      exact (hall.bind fun _ => (decides_loop config).map _).congr
        (by simp [wellFormed_element_iff])
    case h_5 | h_6 =>
      exact ((decides_required _ "test").bind fun _ => hall.map _).congr
        (by simp [wellFormed_element_iff])
    case h_7 => exact (hbranches.map _).congr (by simp [wellFormed_element_iff])
    case h_9 =>
      exact ((decides_required "bind" "name").bind fun _ =>
        (decides_required "bind" "value").map _).congr (by simp [wellFormed_element_iff])
    case h_10 =>
      refine .refused _ fun h => ?_
      simp only [wellFormed_element_iff, List.mem_cons, List.not_mem_nil] at h
      tauto

/-- Several templates can be compiled exactly if each of them is well formed. -/
theorem decides_compileAll (templates : List Template) :
    Decides (compileAll config templates) (∀ template ∈ templates, WellFormed template) := by
  cases templates with
  | nil => exact .accepted _ (by simp)
  | cons first rest =>
    have hrest := decides_compileAll rest
    rw [compileAll]
    exact ((decides_compileNode first).bind fun _ => hrest.map _).congr (by simp)

/-- The children of a choice can be compiled exactly if all of them may stand there and are well
formed, and at most one of them, with what came before, is for no branch. -/
theorem decides_compileBranches (given : Bool) (templates : List Template) :
    Decides (compileBranches config given templates)
      ((∀ template ∈ templates, MayBeChosen template ∧ WellFormed template) ∧
        templates.countP isOtherwise + given.toNat ≤ 1) := by
  cases templates with
  | nil => exact .accepted _ (by cases given <;> simp)
  | cons first rest =>
    cases first with
    | text content =>
      rw [compileBranches]
      have hother : isOtherwise (text content) = false := rfl
      split
      · rename_i hblank
        exact (decides_compileBranches given rest).congr
          (by simp [MayBeChosen, hblank, WellFormed.text, hother])
      · rename_i hblank
        exact .refused _ (by simp [MayBeChosen, hblank])
    | element name attributes children =>
      have hall := decides_compileAll children
      rw [compileBranches.eq_def]
      dsimp only
      split
      · have hrest := decides_compileBranches given rest
        exact ((decides_required "when" "test").bind fun _ => hall.bind fun _ =>
          hrest.map _).congr
            (by simp [wellFormed_element_iff, MayBeChosen, isOtherwise, name?, and_assoc])
      · split
        · rename_i hgiven
          exact .refused _ (by simp [isOtherwise, name?, hgiven])
        · rename_i hgiven
          have hrest := decides_compileBranches true rest
          exact (hall.bind fun _ => hrest.map _).congr
            (by simp [wellFormed_element_iff, MayBeChosen, isOtherwise, name?, hgiven, and_assoc])
      · refine .refused _ fun h => ?_
        have hname := (h.1 _ List.mem_cons_self).1
        simp only [MayBeChosen, List.mem_cons, List.not_mem_nil] at hname
        tauto

end

/-- Templates are compiled exactly if every one of them is well formed, and every failure is a
build error. -/
theorem compileAll_accepts_iff (config : Config) (templates : List Template) :
    ((∃ nodes, compileAll config templates = .ok nodes) ↔
        ∀ template ∈ templates, WellFormed template) ∧
      ((∃ nodes, compileAll config templates = .ok nodes) ∨
        ∃ fault, compileAll config templates = .error (.build fault)) := by
  have hdecides : Decides (compileAll config templates)
      (∀ template ∈ templates, WellFormed template) :=
    decides_compileAll templates
  exact ⟨hdecides.exists_ok_iff, hdecides.ok_or_build⟩

end Template

end SqlTemplate
