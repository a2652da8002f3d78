import SqlTemplate.Render.Layer

/-!
# What layers pass on

A layer gets the chunks of one rendering. A renaming layer changes each of them, a collecting one
keeps them all, and a separating one adds at most one chunk of its own.
-/

namespace SqlTemplate.Layer

/-- Every chunk is renamed. -/
theorem feedAll_renamed (scope : LoopScope) (chunks : List Text) :
    (renamed scope).feedAll chunks = (renamed scope, chunks.map scope.renameAll) := by
  induction chunks with
  | nil => rfl
  | cons chunk rest ih => simp [feedAll, feed, ih]

/-- All chunks are kept, joined after what has been kept so far. -/
theorem feedAll_collected (buffer : Text) (chunks : List Text) :
    (collected buffer).feedAll chunks = (collected (joinChunks buffer chunks), []) := by
  induction chunks generalizing buffer with
  | nil => rfl
  | cons chunk rest ih => simp [feedAll, feed, ih, joinChunks]

/-- After the separator chunks are passed on as they are. -/
theorem feedAll_separated_true (separator : Text) (chunks : List Text) :
    (separated separator true).feedAll chunks = (separated separator true, chunks) := by
  induction chunks with
  | nil => rfl
  | cons chunk rest ih => simp [feedAll, feed, ih]

/-- The separator stands before the first chunk that is not blank. Without such a chunk the chunks
are passed on as they are. -/
theorem feedAll_separated_false (separator : Text) (chunks : List Text) :
    (separated separator false).feedAll chunks = (separated separator false, chunks) ∨
      ∃ before after, chunks = before ++ after ∧
        (separated separator false).feedAll chunks =
          (separated separator true, before ++ separator :: after) := by
  induction chunks with
  | nil => exact .inl rfl
  | cons chunk rest ih =>
    cases hblank : chunk.blank with
    | false =>
      right
      refine ⟨[], chunk :: rest, rfl, ?_⟩
      simp [feedAll, feed, hblank, feedAll_separated_true]
    | true =>
      rcases ih with hrest | ⟨before, after, rfl, hrest⟩
      · left
        simp [feedAll, feed, hblank, hrest]
      · right
        refine ⟨chunk :: before, after, rfl, ?_⟩
        simp [feedAll, feed, hblank, hrest]

end SqlTemplate.Layer
