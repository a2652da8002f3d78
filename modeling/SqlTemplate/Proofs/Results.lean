import Mathlib.Data.List.Forall2

/-!
# Results of fallible steps

A chain of steps that may fail succeeds exactly when every step does, and it fails with the error
of the first step that fails.
-/

namespace SqlTemplate.Results

variable {ε α β : Type}

/-- A chain of two steps succeeds when the second one succeeds with the result of the first. -/
theorem bind_eq_ok {x : Except ε α} {f : α → Except ε β} {b : β} :
    x >>= f = .ok b ↔ ∃ a, x = .ok a ∧ f a = .ok b := by
  cases x with
  | error e => simp [bind, Except.bind]
  | ok a => simp [bind, Except.bind]

/-- A chain of two steps fails with the error of the first step, or of the second after it. -/
theorem bind_eq_error {x : Except ε α} {f : α → Except ε β} {e : ε} :
    x >>= f = .error e ↔ x = .error e ∨ ∃ a, x = .ok a ∧ f a = .error e := by
  cases x with
  | error e => simp [bind, Except.bind]
  | ok a => simp [bind, Except.bind]

/-- A result is mapped exactly when there is one. -/
theorem map_eq_ok {x : Except ε α} {f : α → β} {b : β} :
    x.map f = .ok b ↔ ∃ a, x = .ok a ∧ f a = b := by
  cases x with
  | error e => simp [Except.map]
  | ok a => simp [Except.map]

/-- What is mapped is what a result holds. -/
theorem toOption_map (x : Except ε α) (f : α → β) : (x.map f).toOption = x.toOption.map f := by
  cases x <;> rfl

/-- Another wording of its errors does not change what a result holds. -/
theorem toOption_mapError {ε' : Type} (x : Except ε α) (f : ε → ε') :
    (x.mapError f).toOption = x.toOption := by
  cases x <;> rfl

/-- A success is the same with another wording of the errors. -/
theorem mapError_eq_ok {ε' : Type} {x : Except ε α} {f : ε → ε'} {a : α} :
    x.mapError f = .ok a ↔ x = .ok a := by
  cases x with
  | error e =>
    constructor
    · intro h
      cases h
    · intro h
      cases h
  | ok b =>
    change (.ok b : Except ε' α) = .ok a ↔ _
    rw [Except.ok.injEq, Except.ok.injEq]

/-- A result that holds something is one of success. -/
theorem isOk_eq (x : Except ε α) : x.isOk = x.toOption.isSome := by
  cases x <;> rfl

/-- Two results that hold the same are equal if one of them is a success. -/
theorem toOption_inj {x y : Except ε α} {a : α} (h : x.toOption = y.toOption) (hy : y = .ok a) :
    x = y := by
  subst hy
  cases x with
  | error e => cases h
  | ok b => rw [Option.some.inj h]

/-- A step that succeeds has a result. -/
theorem exists_of_isOk {x : Except ε α} (h : x.isOk = true) : ∃ a, x = .ok a := by
  cases x with
  | error e => cases h
  | ok a => exact ⟨a, rfl⟩

/-- The steps over a list succeed exactly when each of them does. -/
theorem mapM_eq_ok {f : α → Except ε β} {xs : List α} {ys : List β} :
    xs.mapM f = .ok ys ↔ List.Forall₂ (fun x y => f x = .ok y) xs ys := by
  induction xs generalizing ys with
  | nil =>
    rw [List.mapM_nil, List.forall₂_nil_left_iff]
    exact ⟨fun h => (Except.ok.inj h).symm, fun h => h ▸ rfl⟩
  | cons x xs ih =>
    rw [List.mapM_cons, List.forall₂_cons_left_iff, bind_eq_ok]
    constructor
    · rintro ⟨y, hy, h⟩
      obtain ⟨rest, hrest, hys⟩ := bind_eq_ok.mp h
      exact ⟨y, rest, hy, ih.mp hrest, (Except.ok.inj hys).symm⟩
    · rintro ⟨y, rest, hy, hrest, rfl⟩
      exact ⟨y, hy, bind_eq_ok.mpr ⟨rest, ih.mpr hrest, rfl⟩⟩

/-- If the steps over a list fail, one of them fails with the same error. -/
theorem exists_of_mapM_eq_error {f : α → Except ε β} {xs : List α} {e : ε}
    (h : xs.mapM f = .error e) : ∃ x ∈ xs, f x = .error e := by
  induction xs with
  | nil =>
    rw [List.mapM_nil] at h
    cases h
  | cons x xs ih =>
    rw [List.mapM_cons, bind_eq_error] at h
    rcases h with h | ⟨y, _, h⟩
    · exact ⟨x, List.mem_cons_self, h⟩
    · rcases bind_eq_error.mp h with h | ⟨ys, _, h⟩
      · obtain ⟨z, hz, herror⟩ := ih h
        exact ⟨z, List.mem_cons_of_mem x hz, herror⟩
      · cases h

/-- If every element of a list has a partner, there is a list of partners. -/
theorem exists_forall₂ {P : α → β → Prop} {xs : List α} (h : ∀ x ∈ xs, ∃ y, P x y) :
    ∃ ys, List.Forall₂ P xs ys := by
  induction xs with
  | nil => exact ⟨[], .nil⟩
  | cons x xs ih =>
    obtain ⟨y, hy⟩ := h x List.mem_cons_self
    obtain ⟨ys, hys⟩ := ih fun z hz => h z (List.mem_cons_of_mem x hz)
    exact ⟨y :: ys, .cons hy hys⟩

/-- Related elements on the left of two related lists have a partner on the right. -/
theorem exists_of_forall₂ {P : α → β → Prop} {xs : List α} {ys : List β}
    (h : List.Forall₂ P xs ys) {y : β} (hy : y ∈ ys) : ∃ x ∈ xs, P x y := by
  induction h with
  | nil => cases hy
  | cons hxy _ ih =>
    rcases List.mem_cons.mp hy with rfl | hy
    · exact ⟨_, List.mem_cons_self, hxy⟩
    · obtain ⟨x, hx, hrel⟩ := ih hy
      exact ⟨x, List.mem_cons_of_mem _ hx, hrel⟩

/-- If every pair of two related lists has a partner that suits both, there is a list of them. -/
theorem exists_common_partners {γ : Type} {P : α → β → Prop} {Q : α → γ → Prop} {R : β → γ → Prop}
    {xs : List α} {ys : List β} (h : List.Forall₂ P xs ys)
    (hstep : ∀ x, ∀ y ∈ ys, P x y → ∃ z, Q x z ∧ R y z) :
    ∃ zs, List.Forall₂ Q xs zs ∧ List.Forall₂ R ys zs := by
  induction h with
  | nil => exact ⟨[], .nil, .nil⟩
  | cons hxy _ ih =>
    obtain ⟨z, hxz, hyz⟩ := hstep _ _ List.mem_cons_self hxy
    obtain ⟨zs, hxs, hys⟩ := ih fun x y hy => hstep x y (List.mem_cons_of_mem _ hy)
    exact ⟨z :: zs, .cons hxz hxs, .cons hyz hys⟩

/-- Two lists that are related to a third one are related to each other pair by pair. -/
theorem forall₂_of_common {γ : Type} {P : α → β → Prop} {Q : α → γ → Prop} {R : β → γ → Prop}
    {xs : List α} {ys : List β} {zs : List γ} (hxy : List.Forall₂ P xs ys)
    (hxz : List.Forall₂ Q xs zs) (h : ∀ x y z, P x y → Q x z → R y z) : List.Forall₂ R ys zs := by
  induction hxy generalizing zs with
  | nil => cases hxz; exact .nil
  | cons hfirst _ ih =>
    cases hxz with
    | cons hsecond hrest => exact .cons (h _ _ _ hfirst hsecond) (ih hrest)

/-- Steps that agree element by element agree over the lists. -/
theorem mapM_eq_mapM {γ : Type} {f : α → Except ε γ} {g : β → Except ε γ} {xs : List α}
    {ys : List β} (h : List.Forall₂ (fun x y => f x = g y) xs ys) : xs.mapM f = ys.mapM g := by
  induction h with
  | nil => rfl
  | cons hxy _ ih => rw [List.mapM_cons, List.mapM_cons, hxy, ih]

/-- Steps that succeed over a list have the same results exactly if they agree element by
element. -/
theorem eq_iff_of_mapM {f g : α → Except ε β} {xs : List α} {ys zs : List β}
    (hf : xs.mapM f = .ok ys) (hg : xs.mapM g = .ok zs) : ys = zs ↔ ∀ x ∈ xs, f x = g x := by
  have hys := mapM_eq_ok.mp hf
  have hzs := mapM_eq_ok.mp hg
  clear hf hg
  induction hys generalizing zs with
  | nil =>
    cases hzs
    exact iff_of_true rfl (List.forall_mem_nil _)
  | cons hy _ ih =>
    cases hzs with
    | cons hz hrest =>
      rw [List.cons.injEq, List.forall_mem_cons, hy, hz, Except.ok.injEq]
      exact and_congr_right' (ih hrest)

/-- Two related lists are related to a third one pair by pair. -/
theorem forall₂_zip_zip {γ : Type} {P : α → β → Prop} {Q : β → γ → Prop}
    {R : α × γ → β × γ → Prop} {xs : List α} {ys : List β} {zs : List γ}
    (hxy : List.Forall₂ P xs ys) (hyz : List.Forall₂ Q ys zs)
    (h : ∀ x y z, P x y → Q y z → R (x, z) (y, z)) :
    List.Forall₂ R (xs.zip zs) (ys.zip zs) := by
  induction hxy generalizing zs with
  | nil => cases hyz; exact .nil
  | cons hfirst _ ih =>
    cases hyz with
    | cons hsecond hrest => exact .cons (h _ _ _ hfirst hsecond) (ih hrest)

/-- A list is related to the pairs of two others if it is related to the first of them, and that
one to the second. -/
theorem forall₂_zip_right {γ : Type} {P : α → β → Prop} {Q : β → γ → Prop} {xs : List α}
    {ys : List β} {zs : List γ} (hxy : List.Forall₂ P xs ys) (hyz : List.Forall₂ Q ys zs) :
    List.Forall₂ (fun x pair => P x pair.1 ∧ Q pair.1 pair.2) xs (ys.zip zs) := by
  induction hxy generalizing zs with
  | nil => cases hyz; exact .nil
  | cons hfirst _ ih =>
    cases hyz with
    | cons hsecond hrest => exact .cons ⟨hfirst, hsecond⟩ (ih hrest)

end SqlTemplate.Results
