import SqlTemplate.Proofs.Mapping.Reading
import SqlTemplate.Proofs.Paths
import SqlTemplate.Proofs.Statement.Lookup

/-!
# Additional values as an object

The additional values of a statement are read by the name that a path starts with and then by the
path behind that name. This finds what the whole path finds in the object made of them, so it does
not matter for a path on which of the two sides a field is kept.
-/

namespace SqlTemplate

open Results

namespace Path

/-- A path without outer blanks that starts with a name in which no bracket is closed. -/
structure Rooted (path : Text) : Prop where
  trimmed : path.trim = path
  starts : ∃ c ∈ path.head?, goesOn c = false
  unclosed : ']' ∉ (splitRoot path).1

/-- The steps behind the first name of a path, if they can be read. -/
def behind? (path : Text) : Option (List PathStep) :=
  match (splitRoot path).2 with
  | none => some []
  | some rest => (parse rest).toOption

/-- The steps of a path do not depend on where it stands. -/
theorem toOption_stepsFrom (nameExpected : Bool) (offset other : Nat) (path : Text) :
    (stepsFrom nameExpected offset path).toOption =
      (stepsFrom nameExpected other path).toOption := by
  fun_induction stepsFrom nameExpected offset path generalizing other with
  | case1 => rw [stepsFrom]
  | case2 =>
    rw [stepsFrom]
    rfl
  | case3 _ _ rest hname hempty =>
    rw [stepsFrom, if_neg hname, if_pos hempty]
    rfl
  | case4 _ _ rest hname hempty ih => rw [stepsFrom, if_neg hname, if_neg hempty, ih]
  | case5 nameExpected offset rest fault hfault =>
    rw [stepsFrom]
    split
    · rfl
    · rename_i hok
      cases hfault.symm.trans hok
  | case6 nameExpected offset rest step after hok _ ih =>
    obtain ⟨next, hsteps⟩ := stepsFrom_bracket hok nameExpected other
    rw [hsteps, toOption_map, toOption_map, ih]
  | case7 nameExpected offset c rest hdot hopen hname =>
    rw [stepsFrom, if_pos hname]
    · rfl
    · exact hdot
    · exact hopen
  | case8 nameExpected offset c rest hdot hopen hname others after hspan _ hstray =>
    obtain rfl : nameExpected = true := by simpa using hname
    rw [stepsFrom_cons hdot hopen hspan, if_pos hstray]
    rfl
  | case9 nameExpected offset c rest hdot hopen hname others after hspan _ hstray hblank =>
    obtain rfl : nameExpected = true := by simpa using hname
    rw [stepsFrom_cons hdot hopen hspan, if_neg hstray, if_pos hblank]
    rfl
  | case10 nameExpected offset c rest hdot hopen hname others after hspan _ hstray hblank ih =>
    obtain rfl : nameExpected = true := by simpa using hname
    rw [stepsFrom_cons hdot hopen hspan, if_neg hstray, if_neg hblank, toOption_map, toOption_map,
      ih]

/-- A step in brackets stands where a name may stand and where none may. -/
theorem toOption_stepsFrom_bracket (offset other : Nat) (rest : Text) :
    (stepsFrom false offset ('[' :: rest)).toOption =
      (stepsFrom true other ('[' :: rest)).toOption := by
  cases hbracket : bracket rest with
  | error fault =>
    rw [stepsFrom, stepsFrom]
    split
    · rfl
    · rename_i hok
      cases hbracket.symm.trans hok
  | ok read =>
    obtain ⟨next, hsteps⟩ := stepsFrom_bracket hbracket false offset
    obtain ⟨later, hothers⟩ := stepsFrom_bracket hbracket true other
    rw [hsteps, hothers, toOption_map, toOption_map, toOption_stepsFrom false next later]

/-- The steps of a path that is not blank are read from its start. -/
theorem toOption_parse {path : Text} (h : path.blank = false) (offset : Nat) :
    (parse path).toOption = (stepsFrom true offset path).toOption := by
  rw [parse, h, if_neg (by decide), toOption_mapError, toOption_stepsFrom true 0 offset]

/-- A path that starts with a name is this name, with blanks before the dot or the bracket where it
goes on, if it does. -/
theorem Rooted.exists_append {path : Text} (h : Rooted path) :
    ∃ name rest, path = name ++ rest ∧ name.blank = false ∧ (∀ c ∈ name, endsName c = false) ∧
      (∀ c ∈ rest.head?, c = '.' ∨ c = '[') ∧ (splitRoot path).1 = name.trim ∧
      (splitRoot path).2 = if rest = [] then none else
        some (if rest.head? = some '.' then rest.tail else rest) := by
  have hsplit : splitRoot path = (root path, beyond path) := by rw [splitRoot_eq, h.trimmed]
  obtain ⟨first, hfirst, hgoes⟩ := h.starts
  have hsolid : isBlank first = false := Text.head?_of_trim h.trimmed first hfirst
  have hin : first ∈ (path.takeWhile (!goesOn ·)).head? := by
    rw [List.head?_takeWhile, Option.mem_def.mp hfirst, Option.filter_some, hgoes]
    rfl
  have hmem := List.mem_of_mem_head? hin
  have hname : Text.trimStart (path.takeWhile (!goesOn ·)) = path.takeWhile (!goesOn ·) :=
    Text.trimStart_eq_self fun c hc => by rwa [Option.mem_unique hc hin]
  obtain ⟨blanks, hblanks, hall⟩ := Text.exists_trimEnd_append (path.takeWhile (!goesOn ·))
  refine ⟨path.takeWhile (!goesOn ·), path.dropWhile (!goesOn ·),
    List.takeWhile_append_dropWhile.symm, ?_, fun c hc => ?_, fun c hc => ?_, ?_, ?_⟩
  · rw [Text.blank, List.all_eq_false]
    exact ⟨first, hmem, by simp [hsolid]⟩
  · have hinside : goesOn c = false := by simpa using List.mem_takeWhile_imp hc
    have hclosing : c ≠ ']' := by
      rintro rfl
      -- a closing bracket is no blank, so it would stand in the trimmed name too
      rw [hblanks] at hc
      rcases List.mem_append.mp hc with hc | hc
      · have hunclosed := h.unclosed
        rw [hsplit, root, Text.trim, hname] at hunclosed
        exact hunclosed hc
      · exact absurd (hall _ hc) (by decide)
    rw [endsName, Bool.or_eq_false_iff]
    exact ⟨hinside, by simpa using hclosing⟩
  · have hnext : goesOn c = true := by simpa using Text.head?_dropWhile hc
    simpa [goesOn] using hnext
  · rw [hsplit, root]
  · rw [hsplit, beyond]
    simp only [List.isEmpty_iff]

/-- A path that starts with a name has the step of this name, and then the steps of what it is
split into behind the name. -/
theorem Rooted.toOption_parse_eq {path : Text} (h : Rooted path) :
    (parse path).toOption =
      (behind? path).map (.key (String.ofList (splitRoot path).1) :: ·) := by
  obtain ⟨name, rest, hpath, hname, hchars, hgoes, hroot, hbeyond⟩ := h.exists_append
  have hblank : path.blank = false := by
    rw [hpath, Text.blank, List.all_append, show List.all name isBlank = false from hname,
      Bool.false_and]
  obtain ⟨next, hsteps⟩ := stepsFrom_spaced hname hchars hgoes 0
  have hbehind : (stepsFrom false next rest).toOption = behind? path := by
    rw [behind?, hbeyond]
    cases rest with
    | nil =>
      rw [stepsFrom]
      rfl
    | cons c rest =>
      rw [if_neg (List.cons_ne_nil _ _), List.head?_cons]
      rcases hgoes c rfl with rfl | rfl
      · change _ = (parse rest).toOption
        by_cases hrest : rest = []
        · rw [hrest, stepsFrom, if_neg (by decide), if_pos List.isEmpty_nil]
          rfl
        · have hsolid := Text.endsSolid_of_trim h.trimmed (by simp [hpath])
          rw [hpath, List.append_cons] at hsolid
          rw [stepsFrom_dot hrest, toOption_parse (hsolid.of_append _ hrest).blank_eq]
      · change _ = (parse ('[' :: rest)).toOption
        have hopen : Text.blank ('[' :: rest) = false := by
          rw [Text.blank, List.all_cons, show isBlank '[' = false by decide, Bool.false_and]
        rw [toOption_parse hopen 0, toOption_stepsFrom_bracket next 0]
  rw [toOption_parse hblank 0, hroot, ← hbehind, ← toOption_map, ← hsteps, ← hpath]

end Path

/-- What a path that starts with a name finds in an object: the field under the name, or what the
steps behind it find there. -/
theorem Accessor.toOption_get?_obj {path : Text} (h : Path.Rooted path) (fields : Fields) :
    (Accessor.byPath.get? (.obj fields) path).toOption =
      (Path.behind? path).map fun steps =>
        (fields.get? (String.ofList (Path.splitRoot path).1)).bind (Value.walk? steps) := by
  change ((Path.parse path).map _).toOption = _
  rw [toOption_map, h.toOption_parse_eq, Option.map_map]
  rfl

namespace Bound

variable {bound : Bound} {path : Text}

/-- What an additional value holds behind the name of a path. -/
theorem toOption_additional? (haccessor : bound.accessor = .byPath) {value : Value}
    (h : bound.additional.get? (String.ofList (Path.splitRoot path).1) = some value) :
    (bound.additional? path).toOption = (Path.behind? path).map (Value.walk? · value) := by
  simp only [additional?, h, Path.behind?, haccessor]
  cases (Path.splitRoot path).2 with
  | none => rfl
  | some rest =>
    change ((Path.parse rest).map _).toOption = _
    rw [toOption_map]

/-- What is kept under a name: an additional value, or else a field of the parameter. -/
def kept? (bound : Bound) (name : String) : Option Value :=
  (bound.additional.get? name).or <|
    match bound.parameter with
    | .obj fields => Fields.get? fields name
    | _ => none

/-- The statement with a value moved from the parameter with the given fields to the additional
values. -/
def moveOut (bound : Bound) (fields : Fields) (name : String) (value : Value) : Bound :=
  { bound with
    parameter := .obj (fields.erase name)
    additional := bound.additional.insert name value }

/-- The statement with a value moved from the additional values to the parameter with the given
fields. -/
def moveIn (bound : Bound) (fields : Fields) (name : String) (value : Value) : Bound :=
  { bound with
    parameter := .obj (fields.insert name value)
    additional := bound.additional.erase name }

/-- What a marker finds in a statement with an object for a parameter is found in the value that is
kept under its name. -/
theorem toOption_find? (haccessor : bound.accessor = .byPath) {fields : Fields}
    (hparameter : bound.parameter = .obj fields) {m : Mapping} (h : Path.Rooted m.property) :
    (bound.find? m).toOption = (Path.behind? m.property).map fun steps =>
      (bound.kept? (String.ofList (Path.splitRoot m.property).1)).bind (Value.walk? steps) := by
  rw [kept?]
  cases hentry : bound.additional.get? (String.ofList (Path.splitRoot m.property).1) with
  | some value =>
    have hfind : bound.find? m = bound.additional? m.property := by
      rw [find?, hasAdditional, Fields.contains, hentry, Option.isSome_some, if_pos rfl]
    rw [hfind, toOption_additional? haccessor hentry, Option.some_or]
    rfl
  | none =>
    rw [find?_of_parameter hentry, hparameter, haccessor, Option.none_or]
    exact Accessor.toOption_get?_obj h fields

/-- A value that moves to the additional values is kept under its name as before. -/
theorem kept?_moveOut {fields : Fields} (hparameter : bound.parameter = .obj fields)
    {name : String} {value : Value} (hnone : bound.additional.get? name = none)
    (hvalue : fields.get? name = some value) (other : String) :
    (bound.moveOut fields name value).kept? other = bound.kept? other := by
  rw [kept?, kept?, hparameter]
  simp only [moveOut, Fields.get?_insert, Fields.get?_erase]
  by_cases hother : other = name
  · rw [hother, hnone, hvalue]
    simp
  · simp [hother]

/-- A value that moves to the parameter is kept under its name as before. -/
theorem kept?_moveIn {fields : Fields} (hparameter : bound.parameter = .obj fields)
    {name : String} {value : Value} (hvalue : bound.additional.get? name = some value)
    (other : String) : (bound.moveIn fields name value).kept? other = bound.kept? other := by
  rw [kept?, kept?, hparameter]
  simp only [moveIn, Fields.get?_insert, Fields.get?_erase]
  by_cases hother : other = name
  · rw [hother, hvalue]
    simp
  · simp [hother]

/-- A path that starts with a name reads the additional values as it reads the object made of them.
If it can be read at all, both find the same; and if there is an additional value under the name,
one of the two fails exactly when the other does. So what a marker finds stays the same when a field
moves from an object parameter to the additional values, or the other way. -/
theorem additional_read_as_object (haccessor : bound.accessor = .byPath)
    (h : Path.Rooted path) :
    (∀ steps, Path.parse path = .ok steps →
      bound.additional? path = Accessor.byPath.get? (.obj bound.additional) path) ∧
    (bound.hasAdditional path = true →
      (bound.additional? path).isOk =
        (Accessor.byPath.get? (.obj bound.additional) path).isOk) ∧
    ∀ (fields : Fields) (name : String) (value : Value) (m : Mapping),
      bound.parameter = .obj fields → m.property = path →
      (bound.additional.get? name = none → fields.get? name = some value →
        ((bound.moveOut fields name value).find? m).toOption = (bound.find? m).toOption) ∧
      (bound.additional.get? name = some value →
        ((bound.moveIn fields name value).find? m).toOption = (bound.find? m).toOption) := by
  have hobject := Accessor.toOption_get?_obj h bound.additional
  have hadditional {value : Value}
      (hvalue : bound.additional.get? (String.ofList (Path.splitRoot path).1) = some value) :
      (bound.additional? path).toOption =
        (Accessor.byPath.get? (.obj bound.additional) path).toOption := by
    rw [hobject, toOption_additional? haccessor hvalue, hvalue]
    rfl
  refine ⟨fun steps hsteps => ?_, fun hhas => ?_, fun fields name value m hparameter hm => ?_⟩
  · have hread : (Accessor.byPath.get? (.obj bound.additional) path) =
        .ok (Value.walk? steps (.obj bound.additional)) := by
      change (Path.parse path).map _ = _
      rw [hsteps]
      rfl
    cases hvalue : bound.additional.get? (String.ofList (Path.splitRoot path).1) with
    | some value => exact toOption_inj (hadditional hvalue) hread
    | none =>
      have hnone : bound.additional? path = .ok none := by simp only [additional?, hvalue]
      rw [hread, hvalue] at hobject
      rw [hnone, hread]
      obtain ⟨rest, -, hfound⟩ := Option.map_eq_some_iff.mp hobject.symm
      exact congrArg Except.ok hfound
  · obtain ⟨value, hvalue⟩ := Option.isSome_iff_exists.mp hhas
    rw [isOk_eq, isOk_eq, hadditional hvalue]
  · subst hm
    have hfind := toOption_find? haccessor hparameter h
    constructor
    · intro hnone hvalue
      have hmoved : (bound.moveOut fields name value).accessor = .byPath := haccessor
      rw [toOption_find? hmoved rfl h, kept?_moveOut hparameter hnone hvalue, hfind]
    · intro hvalue
      have hmoved : (bound.moveIn fields name value).accessor = .byPath := haccessor
      rw [toOption_find? hmoved rfl h, kept?_moveIn hparameter hvalue, hfind]

/-- A list item of an additional value, behind a name with a blank after it: the path finds the item
there, in the object made of the additional values, and in the parameter when the value has moved to
it. -/
theorem additional_read_as_object_of_item :
    let user : Value := .obj [("tags", .arr [.str "a", .str "b"])]
    let bound : Bound :=
      { sql := []
        mappings := []
        parameter := .obj [("id", .ofNat 1)]
        additional := [("user", user)]
        accessor := .byPath }
    let path : Text := "user .tags[1]".toList
    let m : Mapping := { property := path, valueType := .any, handler := ⟨"unknown", .any⟩ }
    bound.accessor = .byPath ∧ Path.Rooted path ∧ bound.hasAdditional path = true ∧
      Path.parse path = .ok [.key "user", .key "tags", .index 1] ∧
      bound.additional? path = .ok (some (.str "b")) ∧
      Accessor.byPath.get? (.obj bound.additional) path = .ok (some (.str "b")) ∧
      ((bound.moveIn [("id", .ofNat 1)] "user" user).find? m).toOption =
        some (some (.str "b")) := by
  intro user bound path m
  have hrooted : Path.Rooted path := ⟨by decide, ⟨'u', rfl, rfl⟩, by decide⟩
  have hhas : bound.hasAdditional path = true := by decide
  have hsteps : (Path.parse path).toOption = some [.key "user", .key "tags", .index 1] := by
    decide +kernel
  have hparse := toOption_inj (y := .ok _) hsteps rfl
  have hread : Accessor.byPath.get? (.obj bound.additional) path = .ok (some (.str "b")) := by
    change (Path.parse path).map _ = _
    rw [hparse]
    rfl
  have haccessor : bound.accessor = .byPath := rfl
  obtain ⟨hequal, -, hmoves⟩ := additional_read_as_object haccessor hrooted
  have hadditional : bound.additional? path = .ok (some (.str "b")) :=
    (hequal _ hparse).trans hread
  have hfind : bound.find? m = bound.additional? path := if_pos hhas
  have hvalue : bound.additional.get? "user" = some user := by
    rw [Fields.get?_cons, if_pos rfl]
  have hmoved := (hmoves [("id", .ofNat 1)] "user" user m rfl rfl).2 hvalue
  rw [hfind, hadditional] at hmoved
  exact ⟨haccessor, hrooted, hhas, hparse, hadditional, hread, hmoved⟩

end Bound

end SqlTemplate
