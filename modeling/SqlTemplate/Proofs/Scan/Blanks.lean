import Mathlib.Data.List.DropRight
import SqlTemplate.Proofs.Scan.Cutting

/-!
# Blanks around a scan

Blanks at the ends of a text may be trimmed before a scan or after it, if the texts that stand for
its tokens hold no blanks. This is so for every handler, whatever it reads, keeps or refuses.
-/

namespace SqlTemplate

namespace Text

/-- A text that is there and holds no blanks. -/
def Solid (text : Text) : Prop := text ≠ [] ∧ ∀ c ∈ text, isBlank c = false

/-- The end of a solid text. -/
theorem Solid.endsSolid {text : Text} (h : text.Solid) : text.EndsSolid :=
  ⟨text.getLast h.1, List.getLast?_eq_some_getLast h.1, h.2 _ (List.getLast_mem h.1)⟩

end Text

namespace Delimiters

open Text

variable {m : Type → Type} [Monad m] {α β : Type}

/-- Whatever the step comes to, its result has the property. -/
def Yields (P : α → Prop) (x : m α) : Prop := ∃ y : m {a // P a}, Subtype.val <$> y = x

section Yielding

variable [LawfulMonad m] {P : α → Prop} {Q : β → Prop}

/-- A bare result with the property. -/
theorem yields_pure {a : α} (h : P a) : Yields P (pure a : m α) := ⟨pure ⟨a, h⟩, by simp⟩

/-- Nothing is said of the result. -/
theorem yields_true (x : m α) : Yields (fun _ => True) x :=
  ⟨(fun a => ⟨a, trivial⟩) <$> x, by simp⟩

/-- Two functions that agree where the property holds do the same to the result. -/
theorem Yields.map_congr {x : m α} (h : Yields P x) {f g : α → β} (hfg : ∀ a, P a → f a = g a) :
    f <$> x = g <$> x := by
  obtain ⟨y, rfl⟩ := h
  rw [Functor.map_map, Functor.map_map]
  congr 1
  funext a
  exact hfg a.1 a.2

/-- Two steps that agree where the property holds do the same after the first one. -/
theorem Yields.bind_congr {x : m α} (h : Yields P x) {f g : α → m β}
    (hfg : ∀ a, P a → f a = g a) : x >>= f = x >>= g := by
  obtain ⟨y, rfl⟩ := h
  rw [bind_map_left, bind_map_left]
  congr 1
  funext a
  exact hfg a.1 a.2

/-- The property of what a function makes of the result. -/
theorem Yields.map {x : m α} (h : Yields P x) {f : α → β} (hf : ∀ a, P a → Q (f a)) :
    Yields Q (f <$> x) := by
  obtain ⟨y, rfl⟩ := h
  exact ⟨(fun a => ⟨f a.1, hf a.1 a.2⟩) <$> y, by simp [Functor.map_map]⟩

/-- The property of what a second step comes to. -/
theorem Yields.bind {x : m α} (h : Yields P x) {f : α → m β} (hf : ∀ a, P a → Yields Q (f a)) :
    Yields Q (x >>= f) := by
  obtain ⟨y, rfl⟩ := h
  choose next hnext using hf
  refine ⟨y >>= fun a => next a.1 a.2, ?_⟩
  rw [map_bind, bind_map_left]
  congr 1
  funext a
  exact hnext a.1 a.2

end Yielding

section Scanning

variable [LawfulMonad m] (handle : Text → m Text)

/-- An opening delimiter that is never closed is kept, with all that follows it. -/
theorem scan_unclosed {text : Text} (h : parameter.body? text = none) :
    parameter.scan handle ('#' :: '{' :: text) = pure ('#' :: '{' :: text) := by
  rw [scan_eq_map, parameter_braced.segments_unclosed h]
  simp [resolve]

/-- Nothing starts at a blank. -/
theorem plain_of_isBlank {c : Char} (h : isBlank c = true) (text : Text) :
    parameter.Plain c text := by
  refine plain_iff.mpr ⟨?_, ?_⟩
  · rintro ⟨rfl, -⟩
    cases h
  · rintro ⟨rfl, -⟩
    cases h

/-- Where no body ends, none ends when text without closing braces comes behind. -/
theorem body?_append_of_not_mem {text after : Text} (h : parameter.body? text = none)
    (hafter : '}' ∉ after) : parameter.body? (text ++ after) = none := by
  cases hbody : parameter.body? (text ++ after) with
  | none => rfl
  | some found =>
    obtain ⟨body, rest⟩ := found
    obtain ⟨hclosed, hsplit⟩ := parameter_braced.isBody_of_body? hbody
    rcases List.append_eq_append_iff.mp hsplit with ⟨more, -, rfl⟩ | ⟨more, rfl, hrest⟩
    · exact absurd (by simp) hafter
    · cases more with
      | nil => exact absurd (by rw [← List.nil_append after, ← hrest]; simp) hafter
      | cons c more =>
        obtain ⟨rfl, -⟩ := List.cons.inj hrest
        rw [hclosed.body?_eq more] at h
        cases h

/-- Blanks behind a text are kept behind what a scan makes of it. -/
theorem scan_append_blanks (text : Text) {blanks : Text}
    (hblanks : ∀ c ∈ blanks, isBlank c = true) :
    parameter.scan handle (text ++ blanks) =
      (fun out => out ++ blanks) <$> parameter.scan handle text := by
  have hbrace : '}' ∉ blanks := fun hmem => absurd (hblanks _ hmem) (by decide)
  induction text using parameter_braced.inductionOn with
  | nil =>
    rw [List.nil_append, scan_nil, map_pure, List.nil_append]
    induction blanks with
    | nil => exact scan_nil handle parameter
    | cons c blanks ih =>
      obtain ⟨hc, hrest⟩ := List.forall_mem_cons.mp hblanks
      rw [parameter_braced.scan_char handle (plain_of_isBlank hc blanks),
        ih hrest fun hmem => hbrace (List.mem_cons_of_mem _ hmem), map_pure]
  | char c text hplain ih =>
    have happart : Apart (c :: text) blanks := by
      intro last _ e he
      have hblank := hblanks e (List.mem_of_mem_head? he)
      constructor
      · rintro ⟨-, rfl⟩
        cases hblank
      · rintro ⟨-, rfl⟩
        cases hblank
    rw [List.cons_append, parameter_braced.scan_char handle (hplain.append happart),
      parameter_braced.scan_char handle hplain, ih]
    simp [Functor.map_map]
  | slash text ih =>
    rw [List.cons_append, List.cons_append, List.cons_append, parameter_braced.scan_slash handle,
      parameter_braced.scan_slash handle, ih]
    simp [Functor.map_map]
  | token body text hbody ih =>
    have hassoc : '#' :: '{' :: (body ++ '}' :: text) ++ blanks =
        '#' :: '{' :: (body ++ '}' :: (text ++ blanks)) := by simp
    rw [hassoc, parameter_braced.scan_body handle hbody, parameter_braced.scan_body handle hbody,
      ih]
    simp
  | unclosed text hopen =>
    have hlonger := scan_unclosed handle (body?_append_of_not_mem hopen hbrace)
    rw [List.cons_append, List.cons_append, hlonger, scan_unclosed handle hopen]
    simp

variable {handle} (hsolid : ∀ body, Yields Solid (handle body))
include hsolid

/-- What a scan makes of a text that is solid at the end is so, too. -/
theorem yields_endsSolid {text : Text} (h : text.EndsSolid) :
    Yields EndsSolid (parameter.scan handle text) := by
  induction text using parameter_braced.inductionOn with
  | nil =>
    obtain ⟨c, hc, -⟩ := h
    cases hc
  | char c text hplain ih =>
    rw [parameter_braced.scan_char handle hplain]
    by_cases htext : text = []
    · subst htext
      rw [scan_nil, map_pure]
      exact yields_pure h
    · exact (ih (EndsSolid.of_append [c] h htext)).map fun out hout => hout.append [c]
  | slash text ih =>
    rw [parameter_braced.scan_slash handle]
    by_cases htext : text = []
    · subst htext
      rw [scan_nil, map_pure]
      exact yields_pure ⟨'{', rfl, by decide⟩
    · exact (ih (EndsSolid.of_append ['\\', '#', '{'] h htext)).map fun out hout =>
        hout.append ['#', '{']
  | token body text hbody ih =>
    rw [parameter_braced.scan_body handle hbody]
    refine (hsolid _).bind fun out hout => ?_
    by_cases htext : text = []
    · subst htext
      rw [scan_nil, pure_bind, List.append_nil]
      exact yields_pure hout.endsSolid
    · have hassoc : '#' :: '{' :: (body ++ '}' :: text) =
          '#' :: '{' :: (body ++ ['}']) ++ text := by simp
      rw [hassoc] at h
      have hrest := ih (EndsSolid.of_append _ h htext)
      exact hrest.bind fun rest hrest => yields_pure (hrest.append out)
  | unclosed text hopen =>
    rw [scan_unclosed handle hopen]
    exact yields_pure h

/-- What a scan makes of a text that starts with no blank does so, too. -/
theorem yields_startsSolid {text : Text} (h : ∀ c ∈ text.head?, isBlank c = false) :
    Yields (fun out => ∀ c ∈ out.head?, isBlank c = false) (parameter.scan handle text) := by
  induction text using parameter_braced.inductionOn with
  | nil =>
    rw [scan_nil]
    exact yields_pure h
  | char c text hplain _ =>
    rw [parameter_braced.scan_char handle hplain]
    exact (yields_true _).map fun _ _ => h
  | slash text _ =>
    rw [parameter_braced.scan_slash handle]
    refine (yields_true _).map fun _ _ c hc => ?_
    obtain rfl := Option.some.inj hc
    rfl
  | token body text hbody _ =>
    rw [parameter_braced.scan_body handle hbody]
    refine (hsolid _).bind fun out hout => (yields_true _).bind fun rest _ => yields_pure ?_
    intro c hc
    rcases head?_append_cases hc with hfirst | ⟨hnil, -⟩
    · exact hout.2 c (List.mem_of_mem_head? hfirst)
    · exact absurd hnil hout.1
  | unclosed text hopen =>
    rw [scan_unclosed handle hopen]
    exact yields_pure h

/-- Blanks at the end of a text may be trimmed before a scan or after it. -/
theorem scan_trimEnd (text : Text) :
    parameter.scan handle (trimEnd text) = trimEnd <$> parameter.scan handle text := by
  obtain ⟨blanks, hsplit, hblanks⟩ := exists_trimEnd_append text
  have hbehind (out : Text) : trimEnd (out ++ blanks) = trimEnd out := by
    rw [trimEnd, List.reverse_append, List.dropWhile_append_of_pos fun c hc =>
      hblanks c (List.mem_reverse.mp hc)]
    rfl
  have hscan := scan_append_blanks handle (trimEnd text) hblanks
  rw [← hsplit] at hscan
  rw [hscan, Functor.map_map]
  simp only [hbehind]
  by_cases hnil : trimEnd text = []
  · rw [hnil, scan_nil, map_pure]
    rfl
  · have hyields := yields_endsSolid hsolid (endsSolid_trimEnd hnil)
    have hsame : trimEnd <$> parameter.scan handle (trimEnd text) =
        id <$> parameter.scan handle (trimEnd text) :=
      hyields.map_congr fun out hout => hout.trimEnd_eq
    rw [hsame, id_map]

/-- Blanks at the start of a text may be trimmed before a scan or after it. -/
theorem scan_trimStart (text : Text) :
    parameter.scan handle (trimStart text) = trimStart <$> parameter.scan handle text := by
  induction text with
  | nil =>
    rw [scan_nil, map_pure]
    exact scan_nil handle parameter
  | cons c text ih =>
    cases hc : isBlank c with
    | true =>
      have hdrop (out : Text) : trimStart (c :: out) = trimStart out :=
        List.dropWhile_cons_of_pos hc
      rw [hdrop, ih, parameter_braced.scan_char handle (plain_of_isBlank hc text),
        Functor.map_map]
      simp only [hdrop]
    | false =>
      have hhead : ∀ e ∈ (c :: text).head?, isBlank e = false := by simpa using hc
      have hyields := yields_startsSolid hsolid hhead
      have hsame : trimStart <$> parameter.scan handle (c :: text) =
          id <$> parameter.scan handle (c :: text) :=
        hyields.map_congr fun out hout => trimStart_eq_self hout
      rw [trimStart_eq_self hhead, hsame, id_map]

end Scanning

end Delimiters

end SqlTemplate
