import Mathlib.Data.List.Basic
import SqlTemplate.Proofs.Render.Layers
import SqlTemplate.Render.Context

/-!
# Joining

Texts are joined associatively, and the empty text joins without a trace. So chunks may be joined
with each other before they are joined with what is in the buffer. A context performs one rendering
after another, and what it adds to its buffer does not depend on what is there.
-/

namespace SqlTemplate

/-- What stands where two texts are joined, behind the last character of one and before the first
of the other: one space, or nothing. -/
def seam : Option Char → Option Char → Text
  | some last, some first => if meets last first then [] else [' ']
  | _, _ => []

/-- A chunk is appended behind the seam. -/
theorem joinChunk_eq (buffer chunk : Text) :
    joinChunk buffer chunk = buffer ++ (seam buffer.getLast? chunk.head? ++ chunk) := by
  unfold joinChunk
  cases buffer.getLast? with
  | none => rfl
  | some last =>
    cases chunk.head? with
    | none => rfl
    | some first =>
      cases hmeets : meets last first with
      | true => simp [seam, hmeets]
      | false => simp [seam, hmeets]

/-- There is nothing before the first chunk. -/
@[simp] theorem joinChunk_nil_left (chunk : Text) : joinChunk [] chunk = chunk := rfl

/-- An empty chunk is skipped. -/
@[simp] theorem joinChunk_nil_right (buffer : Text) : joinChunk buffer [] = buffer := by
  have hseam (last : Option Char) : seam last none = [] := by
    cases last with
    | none => rfl
    | some c => rfl
  rw [joinChunk_eq, List.head?_nil, hseam, List.append_nil, List.append_nil]

/-- It does not matter which texts are joined first. -/
theorem joinChunk_assoc (first second third : Text) :
    joinChunk (joinChunk first second) third = joinChunk first (joinChunk second third) := by
  by_cases h : second = []
  · rw [h, joinChunk_nil_right, joinChunk_nil_left]
  · have hend : (joinChunk first second).getLast? = second.getLast? := by
      rw [joinChunk_eq, ← List.append_assoc, List.getLast?_append_of_ne_nil _ h]
    have hstart : (joinChunk second third).head? = second.head? := by
      rw [joinChunk_eq, List.head?_append_of_ne_nil _ h]
    calc joinChunk (joinChunk first second) third
        = joinChunk first second ++ (seam second.getLast? third.head? ++ third) := by
          rw [joinChunk_eq, hend]
      _ = first ++ (seam first.getLast? second.head? ++ joinChunk second third) := by
          rw [joinChunk_eq first, joinChunk_eq second]
          simp only [List.append_assoc]
      _ = joinChunk first (joinChunk second third) := by
          rw [joinChunk_eq first (joinChunk second third), hstart]

instance : Std.Associative joinChunk := ⟨joinChunk_assoc⟩

/-- Chunks are joined with each other first, then with the buffer. -/
theorem joinChunks_eq (buffer : Text) (chunks : List Text) :
    joinChunks buffer chunks = joinChunk buffer (joinChunks [] chunks) := by
  have hfold : chunks.foldl joinChunk (joinChunk buffer []) =
      joinChunk buffer (chunks.foldl joinChunk []) := List.foldl_assoc
  rwa [joinChunk_nil_right] at hfold

/-- Chunks are joined one list after the other. -/
theorem joinChunks_append (buffer : Text) (first second : List Text) :
    joinChunks buffer (first ++ second) = joinChunks (joinChunks buffer first) second :=
  List.foldl_append

namespace Layer

/-- A layer gets chunks one list after the other. -/
theorem feedAll_append (layer : Layer) (first second : List Text) :
    layer.feedAll (first ++ second) =
      (((layer.feedAll first).1.feedAll second).1,
        (layer.feedAll first).2 ++ ((layer.feedAll first).1.feedAll second).2) := by
  induction first generalizing layer with
  | nil => rfl
  | cons chunk first ih =>
    simp only [List.cons_append, feedAll, ih, List.append_assoc]

/-- So does a stack of layers. -/
theorem feedStack_append (layers : List Layer) (first second : List Text) :
    feedStack layers (first ++ second) =
      ((feedStack (feedStack layers first).1 second).1,
        (feedStack layers first).2 ++ (feedStack (feedStack layers first).1 second).2) := by
  induction layers generalizing first second with
  | nil => rfl
  | cons layer layers ih => simp only [feedStack, feedAll_append, ih]

/-- Without chunks nothing happens to the layers. -/
theorem feedStack_nil (layers : List Layer) : feedStack layers [] = (layers, []) := by
  induction layers with
  | nil => rfl
  | cons layer layers ih => simp only [feedStack, feedAll, ih]

end Layer

namespace Context

variable {α β : Type}

/-- What a context adds to its buffer is what it would have without. -/
theorem perform_buffer (buffer : Text) (layers : List Layer) (state : RenderState)
    (rendering : Render α) :
    (⟨buffer, layers, state⟩ : Context).perform rendering =
      let fresh := (⟨[], layers, state⟩ : Context).perform rendering
      (fresh.1, { fresh.2 with buffer := joinChunk buffer fresh.2.buffer }) := by
  simp only [perform]
  rw [joinChunks_eq]

/-- A bare result leaves the context as it is. -/
theorem perform_pure (context : Context) (a : α) :
    context.perform (pure a) = (.ok a, context) := by
  simp only [perform, Render.pure_apply, Layer.feedStack_nil]
  rfl

/-- A context performs one rendering after the other. -/
theorem perform_bind (context : Context) (first : Render α) (next : α → Render β) :
    context.perform (first >>= next) =
      match context.perform first with
      | (.error e, after) => (.error e, after)
      | (.ok a, after) => after.perform (next a) := by
  cases h : first context.state with
  | mk result chunks state =>
    cases result with
    | error e => simp only [perform, h, Render.bind_of_error h]
    | ok a =>
      simp only [perform, h, Render.bind_of_ok h, Layer.feedStack_append, joinChunks_append]

/-- What is rendered within a layer is rendered into the context with that layer in front. -/
theorem perform_within (context : Context) (layer : Layer) (rendering : Render α) :
    ∃ result last after, (context.enter layer).perform rendering = (result, after.enter last) ∧
      context.perform (Render.within layer rendering) = (result.map (·, last), after) :=
  ⟨_, _, _, rfl, rfl⟩

end Context

end SqlTemplate
