import SqlTemplate.Proofs.Results
import SqlTemplate.Proofs.Scan.Bodies
import SqlTemplate.Statement.Prepared

/-!
# Preparing a statement

A statement is prepared by making a mapping for each of its placeholders. The text of the prepared
statement is settled by the text it is made from: no mapping has a part in it.
-/

namespace SqlTemplate.Prepared

open Results

/-- The text whose placeholders are replaced: blanks are shrunk if the configuration says so. -/
def scanned (config : Config) (sql : Text) : Text := if config.shrinkBlanks then shrink sql else sql

/-- The pieces of a statement, with markers for its placeholders. Markers are counted on from
`count`. -/
def pieces (style : MarkerStyle) (count : Nat) : List Segment → List Text
  | [] => []
  | .literal text :: rest => text :: pieces style count rest
  | .escapedOpening :: rest => Delimiters.parameter.opening :: pieces style count rest
  | .token _ :: rest => style.marker (count + 1) :: pieces style (count + 1) rest

/-- A statement with markers for its placeholders. -/
def marked (style : MarkerStyle) (sql : Text) : Text :=
  (pieces style 0 (Delimiters.parameter.segments sql)).flatten

/-- A placeholder becomes the next marker, and its mapping goes behind those so far. -/
theorem run_mark (style : MarkerStyle) (known : Surroundings) (body : Text)
    (mappings : List Mapping) :
    (mark style known body).run mappings = (do
      let mapping ← Mapping.ofBody known body
      return (style.marker (mappings.length + 1), mappings ++ [mapping])) := by
  unfold mark
  rw [StateT.run_bind]
  cases h : Mapping.ofBody known body with
  | error e => rfl
  | ok mapping => rfl

/-- Segments are resolved by making a mapping for each body, and putting it behind those so far. -/
theorem run_mapM_resolve (style : MarkerStyle) (known : Surroundings) (segments : List Segment)
    (mappings : List Mapping) :
    (segments.mapM (Delimiters.parameter.resolve (mark style known))).run mappings = (do
      let more ← ((segments.filterMap Segment.body?).map Delimiters.parameter.unescape).mapM
        (Mapping.ofBody known)
      return (pieces style mappings.length segments, mappings ++ more)) := by
  induction segments generalizing mappings with
  | nil => simp [pieces]
  | cons segment rest ih =>
    rw [List.mapM_cons]
    cases segment with
    | literal text =>
      rw [List.filterMap_cons_none rfl]
      simp [Delimiters.resolve, pieces, ih]
    | escapedOpening =>
      rw [List.filterMap_cons_none rfl]
      simp [Delimiters.resolve, pieces, ih]
    | token body =>
      rw [List.filterMap_cons_some (Segment.body?_token body), List.map_cons, List.mapM_cons,
        Delimiters.resolve]
      simp [run_mark, ih, pieces]

/-- A statement is prepared by making a mapping for each of its placeholders; nothing else can go
wrong, and its text does not depend on the mappings. -/
theorem ofText_eq (config : Config) (known : Surroundings) (sql : Text) :
    ofText config known sql = (do
      let mappings ← (Delimiters.parameter.contents (scanned config sql)).mapM
        (Mapping.ofBody known)
      return ⟨marked config.markers (scanned config sql), mappings⟩) := by
  change (Delimiters.parameter.scan (mark config.markers known) (scanned config sql)).run [] >>=
    (fun found => pure (⟨found.1, found.2⟩ : Prepared)) = _
  rw [Delimiters.scan_eq, StateT.run_bind, run_mapM_resolve]
  simp only [bind_assoc, pure_bind]
  rfl

/-- A prepared statement has one mapping for each placeholder, in order. -/
theorem ofText_eq_ok {config : Config} {known : Surroundings} {sql : Text} {statement : Prepared} :
    ofText config known sql = .ok statement ↔
      statement.sql = marked config.markers (scanned config sql) ∧
        List.Forall₂ (fun body m => Mapping.ofBody known body = .ok m)
          (Delimiters.parameter.contents (scanned config sql)) statement.mappings := by
  rw [ofText_eq, bind_eq_ok]
  simp only [mapM_eq_ok]
  constructor
  · rintro ⟨mappings, hmappings, h⟩
    obtain rfl := Except.ok.inj h
    exact ⟨rfl, hmappings⟩
  · rintro ⟨hsql, hmappings⟩
    refine ⟨statement.mappings, hmappings, ?_⟩
    rw [← hsql]
    rfl

end SqlTemplate.Prepared
