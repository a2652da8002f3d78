import SqlTemplate.Proofs.Mapping.Attributes
import SqlTemplate.Proofs.Node.Choices
import SqlTemplate.Proofs.Statement.Rendering

/-!
# Statements of one shape

Values reach a statement through its markers only. As long as two parameters lead to the same
choices, their statements have the same text, and mappings that ask for the same properties in the
same way.
-/

namespace SqlTemplate.Engine

open Results

/-- The choices that are made when a node is rendered for a parameter. -/
def choices (engine : Engine) (root : Node) (parameter : Value) (memory : Memory) : List Choice :=
  Visit.choices (root.visits [] (engine.start parameter memory))

/-- Two parameters that lead a node without spliced values through the same choices lead to the same
text, with mappings that differ at most in the type of the value and the handler that stands for
it. -/
theorem sql_eq_of_choices_eq {engine : Engine} {root : Node} (hroot : root.SpliceFree)
    {name₁ name₂ : Option String} {parameter₁ parameter₂ : Value} {memory₁ memory₂ : Memory}
    {bound₁ bound₂ : Bound} (h₁ : (engine.renderNode root name₁ parameter₁ memory₁).1 = .ok bound₁)
    (h₂ : (engine.renderNode root name₂ parameter₂ memory₂).1 = .ok bound₂)
    (hchoices : engine.choices root parameter₁ memory₁ = engine.choices root parameter₂ memory₂) :
    bound₁.sql = bound₂.sql ∧
      List.Forall₂ (Mapping.AgreeUpToType engine.handlers) bound₁.mappings bound₂.mappings := by
  obtain ⟨_, _, hsql₁, hmappings₁⟩ := mappings_of_renderNode h₁
  obtain ⟨_, _, hsql₂, hmappings₂⟩ := mappings_of_renderNode h₂
  obtain ⟨_, chunks₁, _, _, hrender₁, _⟩ := renderNode_eq_ok.mp h₁
  obtain ⟨_, chunks₂, _, _, hrender₂, _⟩ := renderNode_eq_ok.mp h₂
  have hchunks : chunks₁ = chunks₂ :=
    (hroot.steeredBy hrender₁ hrender₂ rfl (congrArg (· ++ []) hchoices)).2.1
  have htext : engine.renderedText root parameter₁ memory₁ =
      engine.renderedText root parameter₂ memory₂ := by
    rw [renderedText, renderedText, hrender₁, hrender₂, hchunks]
  refine ⟨by rw [hsql₁, hsql₂, htext], ?_⟩
  rw [placeholders, htext] at hmappings₁
  have hhandlers : (engine.known bound₂).handlers = (engine.known bound₁).handlers := rfl
  exact forall₂_of_common hmappings₁ hmappings₂ fun _ _ _ hm hn =>
    Mapping.agree_of_ofBody hhandlers hm hn

/-- A list of names and one of numbers, both of two items, lead a condition, a clause and a loop
with a nested one to the same text; only the types of the markers differ. -/
theorem sql_eq_of_two_items :
    let engine : Engine := {}
    let loop : Loop :=
      { collection := "xs".toList, item := some "x", index := some "i", opening := some ['('],
        closing := some [')'], separator := [','] }
    let root : Node := .mixed [.text "select * from t".toList, .trim .whereClause (.mixed [
      .cond "xs != null".toList (.text "and n = #{n}".toList),
      .choose [("n == null".toList, .text "and m is null".toList)]
        (some (.text "and m = #{_parameter.n}".toList)),
      .text "and x in".toList, .loop loop (.text "#{x} + #{i}".toList)])]
    let parameter₁ : Value := .obj [("n", .str "a"), ("xs", .arr [.str "b", .str "c' --"])]
    let parameter₂ : Value := .obj [("n", .ofNat 1), ("xs", .arr [.ofNat 2, .null])]
    ∃ bound₁ bound₂, root.SpliceFree ∧
      (engine.renderNode root none parameter₁ engine.memory).1 = .ok bound₁ ∧
      (engine.renderNode root none parameter₂ engine.memory).1 = .ok bound₂ ∧
      engine.choices root parameter₁ engine.memory =
        engine.choices root parameter₂ engine.memory ∧
      bound₁.sql = bound₂.sql ∧
      List.Forall₂ (Mapping.AgreeUpToType engine.handlers) bound₁.mappings bound₂.mappings := by
  intro engine loop root parameter₁ parameter₂
  have hroot : root.SpliceFree := by
    refine .mixed ?_
    simp only [List.forall_mem_cons, List.not_mem_nil, false_imp_iff, implies_true, and_true]
    refine ⟨.text _, .trim (.mixed ?_)⟩
    simp only [List.forall_mem_cons, List.not_mem_nil, false_imp_iff, implies_true, and_true]
    refine ⟨.cond (.text _), .choose ?_ ?_, .text _, .loop (.text _)⟩
    · simp only [List.forall_mem_cons, List.not_mem_nil, false_imp_iff, implies_true, and_true]
      exact .text _
    · rintro node hnode
      obtain rfl := Option.mem_some.mp hnode
      exact .text _
  have hok₁ : (engine.renderNode root none parameter₁ engine.memory).1.isOk = true := by
    decide +kernel
  have hok₂ : (engine.renderNode root none parameter₂ engine.memory).1.isOk = true := by
    decide +kernel
  have hchoices : engine.choices root parameter₁ engine.memory =
      engine.choices root parameter₂ engine.memory := by
    decide +kernel
  obtain ⟨bound₁, h₁⟩ := exists_of_isOk hok₁
  obtain ⟨bound₂, h₂⟩ := exists_of_isOk hok₂
  exact ⟨bound₁, bound₂, hroot, h₁, h₂, hchoices, sql_eq_of_choices_eq hroot h₁ h₂ hchoices⟩

end SqlTemplate.Engine
