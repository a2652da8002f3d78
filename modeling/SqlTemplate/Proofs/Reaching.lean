import SqlTemplate.Proofs.Paths

/-!
# Paths to nested values

Every value within an object or a list is reached by the fields and the positions on the way to it.
A path can be spelled for every such way, often in several forms, and all of them lead to the
value.
-/

namespace SqlTemplate.Path

/-- The texts of one step: a position in brackets, a key in quotes that it does not hold, or a bare
name. Before a bare name stands a dot unless it is the first step. -/
inductive SpelledStep (first : Bool) : PathStep → Text → Prop
  | position (n : ℕ) : SpelledStep first (.index n) ('[' :: (Text.ofNat n ++ [']']))
  | quoted {name : String} {quote : Char} (hquote : quote = '\'' ∨ quote = '"')
    (hname : quote ∉ name.toList) :
    SpelledStep first (.key name) ('[' :: quote :: (name.toList ++ [quote, ']']))
  | bare {name : String} (h : Bare name.toList) :
    SpelledStep first (.key name) ((if first then [] else ['.']) ++ name.toList)

/-- The texts of steps, one behind the other. -/
inductive Spelled : Bool → List PathStep → Text → Prop
  | nil {first : Bool} : Spelled first [] []
  | cons {first : Bool} {step : PathStep} {steps : List PathStep} {text rest : Text}
    (hstep : SpelledStep first step text) (h : Spelled false steps rest) :
    Spelled first (step :: steps) (text ++ rest)

/-- A value that stands within another one, behind the fields and the positions on the way. -/
inductive Nested : Value → List PathStep → Value → Prop
  | here {value : Value} : Nested value [] value
  | field {fields : Fields} {name : String} {inner value : Value} {steps : List PathStep}
    (hfield : Fields.get? fields name = some inner) (h : Nested inner steps value) :
    Nested (.obj fields) (.key name :: steps) value
  | item {items : List Value} {n : ℕ} {inner value : Value} {steps : List PathStep}
    (hitem : items[n]? = some inner) (h : Nested inner steps value) :
    Nested (.arr items) (.index n :: steps) value

variable {first : Bool} {step : PathStep} {steps : List PathStep} {text rest path : Text}

/-- Behind the first step a text goes on with a dot or an opening bracket. -/
theorem Spelled.head? (h : Spelled false steps path) : ∀ c ∈ path.head?, c = '.' ∨ c = '[' := by
  intro c hc
  cases h with
  | nil => cases hc
  | cons hstep _ =>
    cases hstep with
    | position => exact .inr (Option.mem_some.mp hc).symm
    | quoted => exact .inr (Option.mem_some.mp hc).symm
    | bare => exact .inl (Option.mem_some.mp hc).symm

/-- The digits of a position are read as its number. -/
theorem bracket_ofNat {n : ℕ} (h : n < UInt64.size) (rest : Text) :
    bracket (Text.ofNat n ++ ']' :: rest) = .ok (.index n, rest) := by
  obtain ⟨hne, hdigits, hvalue⟩ := Expr.digits_ofNat n
  have hread := bracket_position hne hdigits (by rwa [hvalue]) rest
  rwa [hvalue] at hread

/-- One step is read as it is spelled, whatever steps follow. -/
theorem SpelledStep.stepsFrom_append (h : SpelledStep first step text)
    (hbound : ∀ n, step = .index n → n < UInt64.size)
    (hrest : ∀ c ∈ rest.head?, c = '.' ∨ c = '[') (offset : ℕ) :
    ∃ next, stepsFrom first offset (text ++ rest) =
      (stepsFrom false next rest).map (step :: ·) := by
  cases h with
  | position n =>
    have hread := bracket_ofNat (hbound n rfl) rest
    obtain ⟨next, hsteps⟩ := stepsFrom_bracket hread first offset
    refine ⟨next, ?_⟩
    rw [← hsteps, List.cons_append, List.append_assoc, List.singleton_append]
  | @quoted name quote hquote hname =>
    have hread := bracket_quoted hquote hname rest
    rw [String.ofList_toList] at hread
    obtain ⟨next, hsteps⟩ := stepsFrom_bracket hread first offset
    refine ⟨next, ?_⟩
    rw [← hsteps]
    simp
  | @bare name hbare =>
    -- Only for a bare name it counts whether it is the first step: then no dot stands before it.
    cases first with
    | true =>
      obtain ⟨next, hsteps⟩ := stepsFrom_bare hbare hrest offset
      rw [String.ofList_toList] at hsteps
      exact ⟨next, hsteps⟩
    | false =>
      obtain ⟨next, hsteps⟩ := stepsFrom_bare hbare hrest (offset + 1)
      rw [String.ofList_toList] at hsteps
      refine ⟨next, ?_⟩
      have hne : name.toList ++ rest ≠ [] := List.append_ne_nil_of_left_ne_nil hbare.ne_nil rest
      rw [← hsteps, ← stepsFrom_dot hne]
      rfl

/-- All steps are read as they are spelled. -/
theorem Spelled.stepsFrom_eq_ok (h : Spelled first steps path)
    (hbound : ∀ n, .index n ∈ steps → n < UInt64.size) (offset : ℕ) :
    stepsFrom first offset path = .ok steps := by
  induction h generalizing offset with
  | nil => rw [stepsFrom.eq_def]
  | cons hstep hrest ih =>
    have hfirst : ∀ n, _ = PathStep.index n → n < UInt64.size :=
      fun n hn => hbound n (hn ▸ List.mem_cons_self)
    obtain ⟨next, hsteps⟩ := hstep.stepsFrom_append hfirst hrest.head? offset
    rw [hsteps, ih fun n hn => hbound n (List.mem_cons_of_mem _ hn)]
    rfl

/-- A path with a step is not blank. -/
theorem Spelled.blank (h : Spelled first steps path) (hne : steps ≠ []) : path.blank = false := by
  have hopen : isBlank '[' = false := by decide
  have hdot : isBlank '.' = false := by decide
  cases h with
  | nil => exact absurd rfl hne
  | cons hstep _ =>
    cases hstep with
    | position => simp [Text.blank, hopen]
    | quoted => simp [Text.blank, hopen]
    | bare hbare =>
      cases first with
      | true => exact hbare.blank_append _
      | false => simp [Text.blank, hdot]

/-- Every key can be spelled if it does not hold both quotes. -/
theorem exists_spelled (first : Bool)
    (hkeys : ∀ name, .key name ∈ steps → '\'' ∉ name.toList ∨ '"' ∉ name.toList) :
    ∃ path, Spelled first steps path := by
  induction steps generalizing first with
  | nil => exact ⟨[], .nil⟩
  | cons step steps ih =>
    obtain ⟨path, hpath⟩ := ih false fun name hname => hkeys name (List.mem_cons_of_mem _ hname)
    cases step with
    | index n => exact ⟨_, .cons (.position n) hpath⟩
    | key name =>
      rcases hkeys name List.mem_cons_self with hquote | hquote
      · exact ⟨_, .cons (.quoted (.inl rfl) hquote) hpath⟩
      · exact ⟨_, .cons (.quoted (.inr rfl) hquote) hpath⟩

/-- The steps on the way to a nested value find it. -/
theorem Nested.walk?_eq {root value : Value} (h : Nested root steps value) :
    root.walk? steps = some value := by
  induction h with
  | here => rfl
  | field hfield _ ih => rw [walk?_cons, Value.step?, hfield, Option.bind_some, ih]
  | item hitem _ ih => rw [walk?_cons, Value.step?, hitem, Option.bind_some, ih]

/-- Steps can be spelled as a path if no key holds both quotes. In whichever forms they are spelled,
they are read from the path, and the path leads to the value that is nested behind them. -/
theorem spelled_path_reaches (hne : steps ≠ [])
    (hkeys : ∀ name, .key name ∈ steps → '\'' ∉ name.toList ∨ '"' ∉ name.toList)
    (hbound : ∀ n, .index n ∈ steps → n < UInt64.size) :
    (∃ path, Spelled true steps path) ∧
      ∀ path, Spelled true steps path → parse path = .ok steps ∧
        ∀ root value, Nested root steps value →
          Accessor.byPath.get? root path = .ok (some value) := by
  refine ⟨exists_spelled true hkeys, fun path hpath => ?_⟩
  have hparse : parse path = .ok steps := by
    rw [parse, hpath.blank hne, if_neg (by decide), hpath.stepsFrom_eq_ok hbound]
    rfl
  refine ⟨hparse, fun root value hnested => ?_⟩
  change (parse path).map _ = _
  rw [hparse, ← hnested.walk?_eq]
  rfl

/-- A key with a dot, a position, an empty key, and a key with a blank that stands bare. -/
theorem spelled_path_reaches_price :
    let steps : List PathStep := [.key "a.b", .index 10, .key "", .key "unit price"]
    let path : Text := "[\"a.b\"][10][''].unit price".toList
    let items : List Value := List.replicate 10 .null ++
      [.obj [("", .obj [("unit price", .ofNat 5)])]]
    let root : Value := .obj [("a.b", .arr items)]
    (∀ name, .key name ∈ steps → '\'' ∉ name.toList ∨ '"' ∉ name.toList) ∧
      (∀ n, .index n ∈ steps → n < UInt64.size) ∧ Spelled true steps path ∧
      Nested root steps (.ofNat 5) ∧
      Accessor.byPath.get? root path = .ok (some (.ofNat 5)) := by
  intro steps path items root
  have hkeys : ∀ name, .key name ∈ steps → '\'' ∉ name.toList ∨ '"' ∉ name.toList := by
    intro name hname
    simp only [steps, List.mem_cons, PathStep.key.injEq, reduceCtorEq, List.not_mem_nil, false_or,
      or_false] at hname
    rcases hname with rfl | rfl | rfl
    · decide
    · decide
    · decide
  have hbound : ∀ n, .index n ∈ steps → n < UInt64.size := by
    intro n hn
    obtain rfl : n = 10 := by simpa [steps] using hn
    decide
  have hfirst : SpelledStep true (.key "a.b") "[\"a.b\"]".toList :=
    .quoted (.inr rfl) (by decide)
  have hempty : SpelledStep false (.key "") "['']".toList := .quoted (.inl rfl) (by decide)
  have hbare : SpelledStep false (.key "unit price") ".unit price".toList :=
    .bare ⟨by decide, by decide, by simp [endsName]⟩
  have hspelled : Spelled true steps path :=
    .cons hfirst (.cons (.position 10) (.cons hempty (.cons hbare .nil)))
  have hnested : Nested root steps (.ofNat 5) :=
    .field rfl (.item rfl (.field rfl (.field rfl .here)))
  exact ⟨hkeys, hbound, hspelled, hnested,
    ((spelled_path_reaches (List.cons_ne_nil _ _) hkeys hbound).2 path hspelled).2 root _ hnested⟩

end SqlTemplate.Path
