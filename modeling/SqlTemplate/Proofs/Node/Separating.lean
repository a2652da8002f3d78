import Mathlib.Data.List.ReduceOption
import SqlTemplate.Proofs.Node.Steps

/-!
# Separators between passes

A loop puts its separator between those of its passes that come to more than blanks, and nowhere
else. It stands directly before the first chunk of a pass that is not blank, behind the blank chunks
of that pass.
-/

namespace SqlTemplate

open Render

namespace Loop

/-- Whether some chunk is not blank. -/
def written (chunks : List Text) : Bool := chunks.any fun chunk => !chunk.blank

/-- The chunks of a pass that is separated from one before it. The separator, marked by `none`,
stands directly before the first chunk that is not blank; without such a chunk there is none. -/
def separated (chunks : List Text) : List (Option Text) :=
  (chunks.takeWhile Text.blank).map some ++
    match chunks.dropWhile Text.blank with
    | [] => []
    | first :: rest => none :: (first :: rest).map some

/-- The chunks of all passes. Separators start behind the first pass that has a chunk which is not
blank. -/
def spaced (passes : List (List Text)) : List (Option Text) :=
  (passes.takeWhile (!written ·)).flatten.map some ++
    match passes.dropWhile (!written ·) with
    | [] => []
    | first :: later => first.map some ++ later.flatMap separated

/-- The chunks that are not empty. -/
def nonEmpty (chunks : List Text) : List Text := chunks.filter (!·.isEmpty)

/-- The chunks of the passes over elements, one list for each pass, as the body yields them and with
the variables of the loop renamed. -/
def passChunks (spec : Loop) (body : Render Bool) :
    List LoopElement → RenderState → List (List Text)
  | [], _ => []
  | element :: rest, s =>
    let o := body (spec.enter element s)
    o.chunks.map (spec.scope s.nextId).renameAll ::
      match o.result with
      | .ok _ => passChunks spec body rest o.state
      | .error _ => []

section Places

variable {chunk : Text} {chunks : List Text} {passes : List (List Text)}

/-- A blank chunk stands before the separator. -/
theorem separated_cons_of_blank (h : chunk.blank = true) (rest : List Text) :
    separated (chunk :: rest) = some chunk :: separated rest := by
  simp [separated, h]

/-- The separator stands before a chunk that is not blank. -/
theorem separated_cons_of_not_blank (h : chunk.blank = false) (rest : List Text) :
    separated (chunk :: rest) = none :: (chunk :: rest).map some := by
  simp [separated, h]

/-- A pass of blanks only comes before the separators start. -/
theorem spaced_cons_of_not_written (h : written chunks = false) (rest : List (List Text)) :
    spaced (chunks :: rest) = chunks.map some ++ spaced rest := by
  simp [spaced, h]

/-- After a pass with other chunks all passes are separated. -/
theorem spaced_cons_of_written (h : written chunks = true) (rest : List (List Text)) :
    spaced (chunks :: rest) = chunks.map some ++ rest.flatMap separated := by
  simp [spaced, h]

/-- Where no separator stands the chunks are as they were. -/
theorem reduceOption_map_some (chunks : List Text) : (chunks.map some).reduceOption = chunks := by
  simp [List.reduceOption]

/-- Where no separator stands none is counted. -/
theorem count_none_map_some (chunks : List Text) : (chunks.map some).count none = 0 := by
  simp [List.count_eq_zero]

/-- Where no separator stands none is put in. -/
theorem getD_map_some (separator : Text) (chunks : List Text) :
    (chunks.map some).map (·.getD separator) = chunks := by
  simp [Function.comp_def]

/-- Separators apart, a pass keeps its chunks. -/
theorem reduceOption_separated (chunks : List Text) : (separated chunks).reduceOption = chunks := by
  induction chunks with
  | nil => rfl
  | cons chunk rest ih =>
    cases hblank : chunk.blank with
    | true => rw [separated_cons_of_blank hblank, List.reduceOption_cons_of_some, ih]
    | false =>
      rw [separated_cons_of_not_blank hblank, List.reduceOption_cons_of_none,
        reduceOption_map_some]

/-- A pass is separated once if it has a chunk that is not blank. -/
theorem count_none_separated (chunks : List Text) :
    (separated chunks).count none = if written chunks then 1 else 0 := by
  induction chunks with
  | nil => rfl
  | cons chunk rest ih =>
    cases hblank : chunk.blank with
    | true =>
      rw [separated_cons_of_blank hblank]
      simpa [written, hblank] using ih
    | false =>
      rw [separated_cons_of_not_blank hblank, List.count_cons_self, count_none_map_some]
      simp [written, hblank]

/-- Separators apart, separated passes keep their chunks. -/
theorem reduceOption_flatMap_separated (passes : List (List Text)) :
    (passes.flatMap separated).reduceOption = passes.flatten := by
  induction passes with
  | nil => rfl
  | cons chunks rest ih =>
    rw [List.flatMap_cons, List.reduceOption_append, reduceOption_separated, ih, List.flatten_cons]

/-- Each of the separated passes that has a chunk which is not blank is separated once. -/
theorem count_none_flatMap_separated (passes : List (List Text)) :
    (passes.flatMap separated).count none = passes.countP written := by
  induction passes with
  | nil => rfl
  | cons chunks rest ih =>
    rw [List.flatMap_cons, List.count_append, count_none_separated, ih, List.countP_cons,
      Nat.add_comm]

/-- Separators apart, the passes keep their chunks. -/
theorem reduceOption_spaced (passes : List (List Text)) :
    (spaced passes).reduceOption = passes.flatten := by
  induction passes with
  | nil => rfl
  | cons chunks rest ih =>
    cases hwritten : written chunks with
    | true =>
      rw [spaced_cons_of_written hwritten, List.reduceOption_append, reduceOption_map_some,
        reduceOption_flatMap_separated, List.flatten_cons]
    | false =>
      rw [spaced_cons_of_not_written hwritten, List.reduceOption_append, reduceOption_map_some, ih,
        List.flatten_cons]

/-- There is one separator less than there are passes with a chunk that is not blank, and none
without such a pass. -/
theorem count_none_spaced (passes : List (List Text)) :
    (spaced passes).count none = passes.countP written - 1 := by
  induction passes with
  | nil => rfl
  | cons chunks rest ih =>
    cases hwritten : written chunks with
    | true =>
      rw [spaced_cons_of_written hwritten, List.count_append, count_none_map_some,
        count_none_flatMap_separated, List.countP_cons_of_pos hwritten, Nat.zero_add,
        Nat.add_sub_cancel]
    | false =>
      rw [spaced_cons_of_not_written hwritten, List.count_append, count_none_map_some, ih,
        List.countP_cons_of_neg (by simp [hwritten]), Nat.zero_add]

end Places

end Loop

/-- A separating layer puts its separator into the places for it. -/
theorem Layer.feedAll_separated (separator : Text) (chunks : List Text) :
    (Layer.separated separator false).feedAll chunks =
      (.separated separator (Loop.written chunks),
        (Loop.separated chunks).map (·.getD separator)) := by
  induction chunks with
  | nil => rfl
  | cons chunk rest ih =>
    cases hblank : chunk.blank with
    | true =>
      rw [Loop.separated_cons_of_blank hblank]
      simp [feedAll, feed, hblank, ih, Loop.written]
    | false =>
      rw [Loop.separated_cons_of_not_blank hblank]
      rw [List.map_cons, Loop.getD_map_some]
      simp [feedAll, feed, hblank, feedAll_separated_true, Loop.written]

namespace Loop

section Passes

variable {spec : Loop} {body : Render Bool} {element : LoopElement} {elements : List LoopElement}
  {s t : RenderState} {chunks : List Text}

/-- The chunks of a pass that succeeds come before those of the passes after it. -/
theorem passChunks_cons {contributed : Bool}
    (h : body.Gives (spec.enter element s) contributed chunks t) :
    passChunks spec body (element :: elements) s =
      chunks.map (spec.scope s.nextId).renameAll :: passChunks spec body elements t := by
  rw [passChunks, h]

/-- Chunks are empty or not wherever they stand. -/
theorem nonEmpty_append (before after : List Text) :
    nonEmpty (before ++ after) = nonEmpty before ++ nonEmpty after := List.filter_append ..

/-- An empty separator is no chunk. -/
theorem nonEmpty_separated (chunks : List Text) :
    nonEmpty ((separated chunks).map (·.getD [])) = nonEmpty chunks := by
  induction chunks with
  | nil => rfl
  | cons chunk rest ih =>
    cases hblank : chunk.blank with
    | true =>
      rw [separated_cons_of_blank hblank]
      simp only [List.map_cons, Option.getD_some, nonEmpty, List.filter_cons] at ih ⊢
      rw [ih]
    | false =>
      rw [separated_cons_of_not_blank hblank, List.map_cons, getD_map_some]
      rfl

/-- Passes that succeed yield the chunks of the body, one list for each element, with separators in
the places for them. -/
theorem gives_passes {separate : Bool} {u : Unit}
    (h : (passes spec body separate elements).Gives s u chunks t) :
    (passChunks spec body elements s).length = elements.length ∧
      nonEmpty chunks = nonEmpty (List.map (·.getD spec.separator)
        (if separate then (passChunks spec body elements s).flatMap separated
          else spaced (passChunks spec body elements s))) := by
  induction elements generalizing separate s chunks with
  | nil =>
    obtain ⟨rfl, rfl⟩ := gives_passes_nil.mp h
    cases separate <;> exact ⟨rfl, rfl⟩
  | cons element rest ih =>
    obtain ⟨_, c, v, d, hpass, hrest, rfl⟩ := gives_passes_cons.mp h
    obtain ⟨contributed, inside, last, hbody, hfeed, rfl⟩ := gives_pass.mp hpass
    rw [Layer.feedAll_renamed, Layer.feedAll_separated] at hfeed
    cases hfeed
    obtain ⟨hlength, hrest⟩ := ih hrest
    rw [passChunks_cons hbody]
    refine ⟨by rw [List.length_cons, hlength, List.length_cons], ?_⟩
    rw [nonEmpty_append, hrest]
    cases separate with
    | true => simp [nonEmpty_append]
    | false =>
      simp only [Bool.false_eq_true, if_false, nonEmpty_separated, Bool.false_or, Layer.written]
      generalize inside.map (spec.scope s.nextId).renameAll = passed
      cases hwritten : written passed with
      | true => rw [spaced_cons_of_written hwritten, List.map_append, getD_map_some,
          nonEmpty_append, if_pos rfl]
      | false => rw [spaced_cons_of_not_written hwritten, List.map_append, getD_map_some,
          nonEmpty_append, if_neg Bool.false_ne_true]

end Passes

end Loop

namespace Node

variable {spec : Loop} {body : Node} {s t : RenderState} {contributed : Bool} {chunks : List Text}

/-- A loop over elements yields the text before it, the chunks of its passes in order and the text
after it, empty chunks apart. A separator stands directly before the first chunk of a pass that is
not blank, in each pass that has one but the first of these. -/
theorem separators_between_passes
    (h : (render (.loop spec body)).Gives s contributed chunks t) :
    ∃ elements u, (evaluateLoop spec.collection spec.nullable).Gives s elements [] u ∧
      (elements = [] → chunks = []) ∧
      (elements ≠ [] →
        let passes := spec.passChunks (render body) elements u
        let places := Loop.spaced passes
        passes.length = elements.length ∧
          Loop.nonEmpty chunks = Loop.nonEmpty (spec.opening.toList ++
            places.map (·.getD spec.separator) ++ spec.closing.toList) ∧
          places.reduceOption = passes.flatten ∧
          places.count none = passes.countP Loop.written - 1) := by
  obtain ⟨-, hrun⟩ := gives_loop h
  obtain ⟨elements, u, heval, hrun⟩ := Loop.gives_run hrun
  refine ⟨elements, u, heval, ?_⟩
  rcases hrun with ⟨rfl, rfl, rfl⟩ | ⟨hne, inside, w, hpasses, rfl, rfl⟩
  · exact ⟨fun _ => rfl, fun hne => absurd rfl hne⟩
  · obtain ⟨hlength, hinside⟩ := Loop.gives_passes hpasses
    refine ⟨fun hnil => absurd hnil hne, fun _ => ⟨hlength, ?_, Loop.reduceOption_spaced _,
      Loop.count_none_spaced _⟩⟩
    simp only [Loop.nonEmpty_append, hinside, Bool.false_eq_true, if_false]

/-- Two of four passes are blank, so there is one separator. It stands behind the blank chunk of the
last pass, before the text that a nested loop starts with. -/
theorem separators_between_four_passes :
    let nested : Loop :=
      { collection := "ys".toList, item := some "y", opening := some ['['],
        closing := some [']'], separator := [';'] }
    let spec : Loop :=
      { collection := "xs".toList, item := some "x", opening := some ['('],
        closing := some [')'], separator := [','] }
    let body : Node := .mixed [.text [' '],
      .cond "x != 2".toList (.loop nested (.text "#{y}".toList))]
    let parameter : Value := .obj [("xs", .arr [.ofNat 2, .ofNat 1, .ofNat 2, .ofNat 3]),
      ("ys", .arr [.ofNat 7, .ofNat 8])]
    let s : RenderState := { bindings := .seed parameter none, memory := ⟨.empty 8, []⟩ }
    let o := render (.loop spec body) s
    ∃ elements u, (render (.loop spec body)).Gives s true o.chunks o.state ∧
      (evaluateLoop spec.collection spec.nullable).Gives s elements [] u ∧
      Loop.nonEmpty o.chunks = [['('], [' '], [' '], ['['], "#{__frch_y_2}".toList, [';'],
        "#{__frch_y_3}".toList, [']'], [' '], [' '], [','], ['['],
        "#{__frch_y_6}".toList, [';'], "#{__frch_y_7}".toList, [']'], [')']] ∧
      let passes := spec.passChunks (render body) elements u
      let places := Loop.spaced passes
      passes.length = 4 ∧ passes.countP Loop.written = 2 ∧
        Loop.nonEmpty o.chunks = Loop.nonEmpty (['('] :: places.map (·.getD [',']) ++ [[')']]) ∧
        places.reduceOption = passes.flatten ∧ places.count none = 1 := by
  intro nested spec body parameter s o
  have h : (render (.loop spec body)).Gives s true o.chunks o.state :=
    gives_of_toOption (by decide +kernel)
  have hcounts : (evaluateLoop spec.collection spec.nullable s).result.toOption.map
      (fun elements => (elements.length, (spec.passChunks (render body) elements
        (evaluateLoop spec.collection spec.nullable s).state).countP Loop.written)) =
          some (4, 2) := by
    decide +kernel
  obtain ⟨elements, u, heval, -, hplaces⟩ := separators_between_passes h
  rw [heval] at hcounts
  obtain ⟨hlength, hcount⟩ := Prod.mk.inj (Option.some.inj hcounts)
  have hne : elements ≠ [] := List.ne_nil_of_length_eq_add_one hlength
  obtain ⟨hpasses, hbetween, hkept, hnone⟩ := hplaces hne
  exact ⟨elements, u, h, heval, by decide +kernel, hpasses.trans hlength, hcount, hbetween, hkept,
    by rw [hnone, hcount]⟩

end Node

end SqlTemplate
