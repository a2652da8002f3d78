import SqlTemplate.Evaluator
import SqlTemplate.Proofs.Results

/-!
# The cache does not matter

Every expression in the cache is the one that its source denotes, and stays so. So what the standard
evaluator finds depends on the source of an expression and the bindings only.
-/

namespace SqlTemplate

namespace Expr.Cache

/-- Every expression that is kept is the one that its source denotes. -/
def Faithful (cache : Cache) : Prop := ∀ entry ∈ cache.kept, Expr.parse entry.1 = .ok entry.2

/-- A cache that holds nothing is faithful. -/
theorem faithful_empty (capacity : Nat) : (empty capacity).Faithful := by
  intro entry hentry
  cases hentry

/-- What a faithful cache has for a source is what the source denotes. -/
theorem Faithful.parse_eq {cache : Cache} (h : cache.Faithful) {source : Text} {e : Expr}
    (hget : cache.get? source = some e) : Expr.parse source = .ok e := by
  have hmem : (source, e) ∈ cache.kept := by
    obtain ⟨before, after, hkept, -⟩ := List.lookup_eq_some_iff.mp hget
    rw [hkept]
    simp
  exact h (source, e) hmem

/-- The queue has no say in what is kept. -/
theorem kept_touch (cache : Cache) (source : Text) : (cache.touch source).kept = cache.kept := by
  unfold touch
  split
  · rfl
  · rfl

/-- Another request keeps a cache faithful. -/
theorem Faithful.touch {cache : Cache} (h : cache.Faithful) (source : Text) :
    (cache.touch source).Faithful := by
  rw [Faithful, kept_touch]
  exact h

/-- What is left after the oldest sources have gone has been kept before. -/
theorem mem_of_mem_evict {capacity : Nat} {kept : List (Text × Expr)} {queue : List Text}
    {entry : Text × Expr} (h : entry ∈ (evict capacity kept queue).1) : entry ∈ kept := by
  induction queue generalizing kept with
  | nil => exact h
  | cons oldest queue ih =>
    rw [evict] at h
    split at h
    · exact (List.mem_filter.mp (ih h)).1
    · exact h

/-- What a source denotes is given back, and a cache that keeps it is faithful still, whatever has
to go. -/
theorem Faithful.insertIfAbsent {cache : Cache} (h : cache.Faithful) {source : Text} {e : Expr}
    (hparse : Expr.parse source = .ok e) :
    (cache.insertIfAbsent source e).1 = e ∧ (cache.insertIfAbsent source e).2.Faithful := by
  unfold Cache.insertIfAbsent
  split
  · exact ⟨rfl, h⟩
  · cases hget : cache.get? source with
    | some present =>
      have hpresent := h.parse_eq hget
      rw [hparse] at hpresent
      exact ⟨(Except.ok.inj hpresent).symm, h.touch source⟩
    | none =>
      refine ⟨rfl, fun entry hentry => ?_⟩
      rcases List.mem_cons.mp (mem_of_mem_evict hentry) with rfl | hold
      · exact hparse
      · exact h entry hold

end Expr.Cache

namespace Evaluator

section Parsing

variable {source : Text} {cache : Expr.Cache} {e : Expr}

/-- An expression that is kept is given, and its source goes to the end of the queue. -/
theorem parsed_of_some (hget : cache.get? source = some e) :
    parsed source cache = { result := .ok e, cache := cache.touch source } := by
  simp only [parsed, hget]

/-- A source that is not kept is parsed. Where it denotes nothing the cache stays as it is. -/
theorem parsed_of_error {error : Error} (hget : cache.get? source = none)
    (hparse : Expr.parse source = .error error) :
    parsed source cache = { result := .error error, cache, parsed := [source] } := by
  simp only [parsed, hget, hparse]

/-- A source that is not kept is parsed. What it denotes goes to the cache. -/
theorem parsed_of_ok (hget : cache.get? source = none) (hparse : Expr.parse source = .ok e) :
    parsed source cache = {
      result := .ok (cache.insertIfAbsent source e).1
      cache := (cache.insertIfAbsent source e).2
      parsed := [source] } := by
  simp only [parsed, hget, hparse]

end Parsing

variable {α β : Type}

/-- The bindings settle the answer to a question: a faithful cache has no say in it, and stays
faithful. -/
def Settles (question : Bindings → Expr.Cache → Reply α) (f : Bindings → Except Error α) : Prop :=
  ∀ bindings cache, cache.Faithful →
    (question bindings cache).result = f bindings ∧ (question bindings cache).cache.Faithful

/-- Where an answer is settled, so is what is made of it. -/
theorem Settles.andThen {question : Bindings → Expr.Cache → Reply α} {f : Bindings → Except Error α}
    (h : Settles question f) (next : Bindings → α → Except Error β) :
    Settles (fun bindings cache => (question bindings cache).andThen (next bindings))
      fun bindings => f bindings >>= next bindings := by
  intro bindings cache hcache
  obtain ⟨hresult, hfaithful⟩ := h bindings cache hcache
  exact ⟨congrArg (· >>= next bindings) hresult, hfaithful⟩

/-- A source is parsed to what it denotes, from the cache or anew. -/
theorem settles_parsed (source : Text) :
    Settles (fun _ => parsed source) fun _ => Expr.parse source := by
  intro bindings cache h
  dsimp only
  cases hget : cache.get? source with
  | some e =>
    rw [parsed_of_some hget, h.parse_eq hget]
    exact ⟨rfl, h.touch source⟩
  | none =>
    cases hparse : Expr.parse source with
    | error error =>
      rw [parsed_of_error hget hparse]
      exact ⟨rfl, h⟩
    | ok e =>
      obtain ⟨hgiven, hfaithful⟩ := h.insertIfAbsent hparse
      rw [parsed_of_ok hget hparse, hgiven]
      exact ⟨rfl, hfaithful⟩

/-- What an expression comes to under some bindings. -/
def meaning (source : Text) (bindings : Bindings) : Except Error Value := do
  let e ← Expr.parse source
  (e.eval bindings).mapError (.evaluation source)

/-- A text that is parsed comes to the values that its expression has. -/
theorem meaning_eq_ok {source : Text} {e : Expr} (h : Expr.parse source = .ok e)
    {bindings : Bindings} {value : Value} :
    meaning source bindings = .ok value ↔ e.eval bindings = .ok value := by
  rw [meaning, h]
  exact Results.mapError_eq_ok

/-- The standard evaluator finds the value that an expression means. -/
theorem settles_value (source : Text) : Settles (standard.value source) (meaning source) :=
  (settles_parsed source).andThen fun bindings e =>
    (e.eval bindings).mapError (.evaluation source)

/-- Conditions go by the value. -/
theorem settles_test (source : Text) :
    Settles (standard.test source) fun bindings =>
      meaning source bindings >>= fun value => .ok value.isTrue :=
  (settles_value source).andThen fun _ value => .ok value.isTrue

/-- Collections go by the value. -/
theorem settles_elements (source : Text) (nullable : Bool) :
    Settles (standard.elements source nullable) fun bindings =>
      meaning source bindings >>= fun value =>
        (value.loopElements nullable).mapError (.evaluation source) :=
  (settles_value source).andThen fun _ value =>
    (value.loopElements nullable).mapError (.evaluation source)

/-- Two caches serve an evaluator alike: neither misleads the standard one, and for any other one
they are the same. -/
structure Agree (evaluator : Evaluator) (first second : Expr.Cache) : Prop where
  faithful : evaluator = standard → first.Faithful ∧ second.Faithful
  same : evaluator ≠ standard → first = second

namespace Agree

variable {evaluator : Evaluator} {first second : Expr.Cache}

/-- Faithful caches serve the standard evaluator alike. -/
theorem of_faithful (hfirst : first.Faithful) (hsecond : second.Faithful) :
    standard.Agree first second :=
  ⟨fun _ => ⟨hfirst, hsecond⟩, fun h => absurd rfl h⟩

/-- A cache that serves like another one serves like itself. -/
theorem left (h : evaluator.Agree first second) : evaluator.Agree first first :=
  ⟨fun hstandard => ⟨(h.faithful hstandard).1, (h.faithful hstandard).1⟩, fun _ => rfl⟩

/-- From caches that serve alike a question has the same answer, if the bindings settle that of the
standard evaluator. The caches serve alike after it. -/
theorem ask (h : evaluator.Agree first second)
    {question : Evaluator → Bindings → Expr.Cache → Reply α} {f : Bindings → Except Error α}
    (hsettles : Settles (question standard) f) (bindings : Bindings) :
    (question evaluator bindings second).result = (question evaluator bindings first).result ∧
      evaluator.Agree (question evaluator bindings first).cache
        (question evaluator bindings second).cache := by
  by_cases hstandard : evaluator = standard
  · subst hstandard
    obtain ⟨hfirst, hsecond⟩ := h.faithful rfl
    obtain ⟨hleft, hleftFaithful⟩ := hsettles bindings first hfirst
    obtain ⟨hright, hrightFaithful⟩ := hsettles bindings second hsecond
    exact ⟨hright.trans hleft.symm, of_faithful hleftFaithful hrightFaithful⟩
  · obtain rfl := h.same hstandard
    exact ⟨rfl, fun h => absurd h hstandard, fun _ => rfl⟩

end Agree

end Evaluator

end SqlTemplate
