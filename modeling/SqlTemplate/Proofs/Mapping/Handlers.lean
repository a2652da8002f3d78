import SqlTemplate.Proofs.Mapping.Reordering

/-!
# Registered handlers

A handler is registered under a name as it is, and looked up without the outer blanks of a name. Of
several registrations under one name the last one counts. So a handler whose name has no outer
blanks is found by that name, also where a placeholder names it. A handler whose name has some is
never found: what is found in its place is what stands under the name without them, if anything
does.
-/

namespace SqlTemplate

open Placeholder

namespace Handlers

/-- The handlers after registrations, in order. -/
def registerAll (handlers : Handlers) (registrations : List (String × ValueType)) : Handlers :=
  registrations.foldl (fun all (name, valueType) => all.register name valueType) handlers

/-- The type that a name was last registered for. -/
def lastType? (registrations : List (String × ValueType)) (name : String) : Option ValueType :=
  registrations.reverse.lookup name

/-- The name that a handler is looked up under. -/
def key (name : Text) : String := String.ofList name.trim

/-- What is found under a name as it is, after registrations that start from the standard handlers:
the last registration counts, and a standard handler where there is none. -/
def standing? (registrations : List (String × ValueType)) (name : String) : Option Handler :=
  ((lastType? registrations name).map fun valueType => ⟨name, valueType⟩).or (standard.get? name)

/-- A registered handler takes the place of the one under its name, and of no other. -/
theorem get?_register (handlers : Handlers) (name other : String) (valueType : ValueType) :
    (handlers.register name valueType).get? other =
      if other = name then some ⟨name, valueType⟩ else handlers.get? other := by
  by_cases h : other = name
  · simp [register, get?, h]
  · have hfilter : (handlers.entries.filter (·.name ≠ name)).find? (·.name == other) =
        handlers.entries.find? (·.name == other) := by
      rw [List.find?_filter]
      refine congrArg (handlers.entries.find? ·) (funext fun handler => ?_)
      by_cases hname : handler.name = other
      · simp [hname, h]
      · simp [hname]
    rw [if_neg h, register, get?, List.find?_cons_of_neg (by simpa using Ne.symm h), hfilter, get?]

/-- A handler that is found under a name has that name. -/
theorem name_of_get? {handlers : Handlers} {name : String} {handler : Handler}
    (h : handlers.get? name = some handler) : handler.name = name := by
  simpa using List.find?_some h

/-- A registration comes after those before it. -/
theorem lastType?_concat (registrations : List (String × ValueType)) (name other : String)
    (valueType : ValueType) :
    lastType? (registrations ++ [(name, valueType)]) other =
      if other = name then some valueType else lastType? registrations other := by
  rw [lastType?, List.reverse_append, List.reverse_singleton, List.singleton_append,
    List.lookup_cons]
  by_cases h : other = name
  · simp [h]
  · simp [h, beq_eq_false_iff_ne.mpr h, lastType?]

/-- After registrations the last one under a name is found there, and what stood there before if
there is none. -/
theorem get?_registerAll (handlers : Handlers) (registrations : List (String × ValueType))
    (name : String) :
    (handlers.registerAll registrations).get? name =
      ((lastType? registrations name).map fun valueType => ⟨name, valueType⟩).or
        (handlers.get? name) := by
  induction registrations using List.reverseRecOn with
  | nil => rfl
  | append_singleton registrations last ih =>
    obtain ⟨registered, valueType⟩ := last
    have hstep : handlers.registerAll (registrations ++ [(registered, valueType)]) =
        (handlers.registerAll registrations).register registered valueType := by
      simp [registerAll]
    rw [hstep, get?_register, lastType?_concat, ih]
    by_cases h : name = registered
    · simp [h]
    · simp [h]

/-- What a text names after registrations stands under its key. -/
theorem resolve?_registerAll (registrations : List (String × ValueType)) (name : Text) :
    (standard.registerAll registrations).resolve? name = standing? registrations (key name) :=
  get?_registerAll standard registrations (key name)

/-- What stands under a name has that name. -/
theorem name_of_standing? {registrations : List (String × ValueType)} {name : String}
    {handler : Handler} (h : standing? registrations name = some handler) :
    handler.name = name := by
  rw [standing?, ← get?_registerAll] at h
  exact name_of_get? h

end Handlers

namespace Mapping

variable {body : Text} {p : Placeholder} {name : Text}

/-- The draft of a placeholder names the handler that its attribute names. -/
theorem handlerName_of_setAll {valueType : ValueType} {draft : Draft}
    (hp : Placeholder.parse body = .ok p)
    (hdraft : Draft.setAll body { valueType } p.entries = .ok draft) :
    draft.handlerName = p.get? "typeHandler".toList := by
  obtain ⟨-, rfl⟩ := (Draft.setAll_eq_ok (nodup_of_parse hp)).mp hdraft
  exact Option.or_none

/-- A placeholder that names a handler has a mapping exactly if the handler is known and nothing
else speaks against it, and then the mapping is with that handler. -/
theorem ofBody_eq_ok_of_handlerName {known : Surroundings} {m : Mapping}
    (hp : Placeholder.parse body = .ok p) (hname : p.get? "typeHandler".toList = some name) :
    ofBody known body = .ok m ↔
      ∃ handler valueType draft, known.handlers.resolve? name = some handler ∧
        resolveType known p = .ok valueType ∧
        Draft.setAll body { valueType } p.entries = .ok draft ∧
        ¬(draft.valueType = .cursor ∧ draft.resultMap = none) ∧ m = draft.mapping p handler := by
  have hstep {valueType : ValueType} {draft : Draft} {handler : Handler}
      (hdraft : Draft.setAll body { valueType } p.entries = .ok draft) :
      draft.handler body known.handlers = .ok handler ↔
        known.handlers.resolve? name = some handler := by
    have hdraftName := (handlerName_of_setAll hp hdraft).trans hname
    simp only [Draft.handler, hdraftName]
    cases known.handlers.resolve? name with
    | none => exact iff_of_false (fun h => by cases h) (fun h => by cases h)
    | some found => simp
  rw [ofBody_eq_ok]
  constructor
  · rintro ⟨q, valueType, draft, handler, hq, htype, hdraft, hhandler, hcursor, rfl⟩
    obtain rfl : q = p := Except.ok.inj (hq.symm.trans hp)
    exact ⟨handler, valueType, draft, (hstep hdraft).mp hhandler, htype, hdraft, hcursor, rfl⟩
  · rintro ⟨handler, valueType, draft, hhandler, htype, hdraft, hcursor, rfl⟩
    exact ⟨p, valueType, draft, handler, hp, htype, hdraft, (hstep hdraft).mpr hhandler, hcursor,
      rfl⟩

end Mapping

/-- The name of a handler behind a property is read without its outer blanks. -/
theorem Placeholder.parse_named {property name : Text} (hproperty : IsHead property)
    (hname : ',' ∉ name) :
    parse (property ++ (",typeHandler=".toList ++ name)) =
      .ok ⟨[("property".toList, core property), ("typeHandler".toList, name.trim)]⟩ := by
  have hspelled : AttributesSpelled [(core "typeHandler".toList, name.trim)]
      (',' :: ("typeHandler".toList ++ '=' :: (name ++ []))) :=
    .cons (by decide) (by simp) hname .nil
  rw [List.append_nil] at hspelled
  exact (Spelled.mk hproperty (.plain hspelled)).parse_eq_ok

/-- After registrations from the standard handlers, a name that was registered finds what stands
under its key: by itself, and in each placeholder that has it for its handler. What stands there is
the last registration of the name exactly if the name has no outer blanks. Else it is a handler of
another name, or none. -/
theorem Handlers.found_under_key {registrations : List (String × ValueType)} {name : String}
    {valueType : ValueType} (h : lastType? registrations name = some valueType) :
    let known := standard.registerAll registrations
    let found := standing? registrations (key name.toList)
    (found = some ⟨name, valueType⟩ ↔ key name.toList = name) ∧
      (∀ handler ∈ found, handler.name = key name.toList) ∧
      known.resolve? name.toList = found ∧
      known.contains name.toList = found.isSome ∧
      (∀ property : Text, IsHead property → ',' ∉ name.toList →
        parse (property ++ (",typeHandler=".toList ++ name.toList)) =
          .ok ⟨[("property".toList, core property),
            ("typeHandler".toList, Text.trim name.toList)]⟩) ∧
      ∀ (within : Surroundings) (body : Text) (p : Placeholder) (m : Mapping),
        within.handlers = known → parse body = .ok p →
        p.get? "typeHandler".toList = some (Text.trim name.toList) →
        (Mapping.ofBody within body = .ok m ↔
          ∃ handler type draft, found = some handler ∧
            Mapping.resolveType within p = .ok type ∧
            Mapping.Draft.setAll body { valueType := type } p.entries = .ok draft ∧
            ¬(draft.valueType = .cursor ∧ draft.resultMap = none) ∧
            m = draft.mapping p handler) := by
  intro known found
  have hkey : key (Text.trim name.toList) = key name.toList := by
    rw [key, Text.trim_trim, key]
  refine ⟨⟨fun hfound => (name_of_standing? hfound).symm, fun hname => ?_⟩,
    fun handler hfound => name_of_standing? hfound,
    resolve?_registerAll registrations name.toList,
    congrArg Option.isSome (resolve?_registerAll registrations name.toList),
    fun property hproperty hcomma => parse_named hproperty hcomma, ?_⟩
  · have hstanding : found = standing? registrations name :=
      congrArg (standing? registrations) hname
    rw [hstanding, standing?, h]
    rfl
  · intro within body p m hknown hp hname
    rw [Mapping.ofBody_eq_ok_of_handlerName hp hname, hknown, resolve?_registerAll, hkey]

/-- A name registered twice, a standard name registered anew, and a name with outer blanks: behind
that one stands what the bare name was registered for. -/
theorem Handlers.found_under_keys :
    let registrations : List (String × ValueType) :=
      [("money", .float), (" money ", .integer), ("list", .string), ("money", .map)]
    let known := standard.registerAll registrations
    let within : Surroundings := ⟨.byPath, known, .integer, .num (.int 1), []⟩
    known.resolve? "list".toList = some ⟨"list", .string⟩ ∧
      known.resolve? "money".toList = some ⟨"money", .map⟩ ∧
      known.resolve? " money ".toList = some ⟨"money", .map⟩ ∧
      (standing? registrations (key " money ".toList) = some ⟨" money ", .integer⟩ ↔
        key " money ".toList = " money ") ∧
      key " money ".toList ≠ " money " ∧
      Mapping.ofBody within "price,typeHandler= money ".toList =
        .ok { property := "price".toList, valueType := .integer, handler := ⟨"money", .map⟩ } := by
  intro registrations known within
  have hlist := @found_under_key registrations "list" .string (by decide)
  have hmoney := @found_under_key registrations "money" .map (by decide)
  have hblanks := @found_under_key registrations " money " .integer (by decide)
  have hprice : IsHead "price".toList := ⟨by decide, by simp [inProperty], by decide⟩
  have hp := hblanks.2.2.2.2.1 "price".toList hprice (by decide)
  refine ⟨hlist.2.2.1, hmoney.2.2.1, hblanks.2.2.1, hblanks.1, by decide, ?_⟩
  refine (hblanks.2.2.2.2.2 within _ _ _ rfl hp (by decide)).mpr ?_
  exact ⟨⟨"money", .map⟩, .integer,
    { valueType := .integer, handlerName := some "money".toList }, by decide, rfl, rfl,
    by decide, rfl⟩

/-- A handler that is registered under a name with outer blanks need not be found. -/
theorem Handlers.not_found_of_registered :
    ¬∀ (registrations : List (String × ValueType)) (name : String) (valueType : ValueType),
      lastType? registrations name = some valueType →
        (standard.registerAll registrations).contains name.toList = true ∧
          ∃ handler, (standard.registerAll registrations).resolve? name.toList = some handler ∧
            handler.valueType = valueType := by
  intro h
  have hfound := (h [(" money ", .float)] " money " .float (by decide)).1
  exact absurd hfound (by decide)

end SqlTemplate
