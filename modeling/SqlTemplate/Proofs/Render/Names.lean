import Std.Data.String.ToNat
import SqlTemplate.Placeholder
import SqlTemplate.Proofs.Scan.Braces
import SqlTemplate.Render.Layer
import SqlTemplate.Unicode.Letter

/-!
# Names of loop variables

The name of a loop variable is an identifier, so none of its characters means anything in a
placeholder. Its name for a pass tells the pass, and is taken for no other name.
-/

namespace SqlTemplate

namespace Unicode

/-- The blanks that are no ASCII characters. -/
def wideBlanks : List Nat :=
  [0x85, 0xA0, 0x1680, 0x2000, 0x2001, 0x2002, 0x2003, 0x2004, 0x2005, 0x2006, 0x2007, 0x2008,
    0x2009, 0x200A, 0x2028, 0x2029, 0x202F, 0x205F, 0x3000]

/-- No blank is a letter or a numeral. -/
theorem not_inRanges_of_wideBlanks : ∀ n ∈ wideBlanks,
    inRanges alphabetic n = false ∧ inRanges numeric n = false := by
  decide +kernel

end Unicode

/-- A blank beyond ASCII is one of a few. -/
theorem mem_wideBlanks_of_isBlank {c : Char} (hwide : 0x80 ≤ c.toNat) (h : isBlank c = true) :
    c.toNat ∈ Unicode.wideBlanks := by
  simp only [isBlank, Bool.or_eq_true, Bool.and_eq_true, decide_eq_true_eq, beq_iff_eq] at h
  simp only [Unicode.wideBlanks, List.mem_cons, List.not_mem_nil, or_false]
  omega

namespace LoopScope

/-- The characters of a name: letters, digits and the underscore. -/
def isNameChar (c : Char) : Bool := isLetter c || isNumeral c || c == '_'

/-- The code points of ASCII letters. -/
theorem toNat_of_isAlpha {c : Char} (h : c.isAlpha = true) :
    65 ≤ c.toNat ∧ c.toNat ≤ 90 ∨ 97 ≤ c.toNat ∧ c.toNat ≤ 122 := by
  rcases Bool.or_eq_true_iff.mp h with hupper | hlower
  · have hbounds : c.val ≥ 'A'.val ∧ c.val ≤ 'Z'.val := of_decide_eq_true hupper
    obtain ⟨hfirst, hlast⟩ := hbounds
    exact .inl ⟨UInt32.le_iff_toNat_le.mp hfirst, UInt32.le_iff_toNat_le.mp hlast⟩
  · obtain ⟨hfirst, hlast⟩ := Bool.and_eq_true_iff.mp hlower
    exact .inr ⟨UInt32.le_iff_toNat_le.mp (of_decide_eq_true hfirst),
      UInt32.le_iff_toNat_le.mp (of_decide_eq_true hlast)⟩

/-- The code points of ASCII digits. -/
theorem toNat_of_isDigit {c : Char} (h : c.isDigit = true) : 48 ≤ c.toNat ∧ c.toNat ≤ 57 := by
  simp only [Char.isDigit, ge_iff_le, Bool.and_eq_true, decide_eq_true_eq,
    UInt32.le_iff_toNat_le] at h
  exact h

/-- A digit is a character of names. -/
theorem isNameChar_of_isDigit {c : Char} (h : c.isDigit = true) : isNameChar c = true := by
  have := toNat_of_isDigit h
  simp [isNameChar, isNumeral, h, show c.toNat < 0x80 by omega]

/-- A character of a name is beyond ASCII and no blank, or one of a few of ASCII. -/
theorem toNat_of_isNameChar {c : Char} (h : isNameChar c = true) :
    0x80 ≤ c.toNat ∧ isBlank c = false ∨ 48 ≤ c.toNat ∧ c.toNat ≤ 57 ∨
      65 ≤ c.toNat ∧ c.toNat ≤ 90 ∨ c.toNat = 95 ∨ 97 ≤ c.toNat ∧ c.toNat ≤ 122 := by
  by_cases hwide : c.toNat < 0x80
  · right
    simp only [isNameChar, isLetter, isNumeral, hwide, if_true, Bool.or_eq_true, beq_iff_eq] at h
    rcases h with (h | h) | rfl
    · have := toNat_of_isAlpha h
      omega
    · have := toNat_of_isDigit h
      omega
    · decide
  · refine .inl ⟨by omega, ?_⟩
    cases hblank : isBlank c with
    | false => rfl
    | true =>
      obtain ⟨hletter, hnumeral⟩ := Unicode.not_inRanges_of_wideBlanks _
        (mem_wideBlanks_of_isBlank (by omega) hblank)
      simp only [isNameChar, isLetter, isNumeral, hwide, if_false, hletter, hnumeral,
        Bool.false_or, beq_iff_eq] at h
      rw [h] at hblank
      cases hblank

/-- No character of a name is a blank. -/
theorem isBlank_of_isNameChar {c : Char} (h : isNameChar c = true) : isBlank c = false := by
  rcases toNat_of_isNameChar h with ⟨-, hblank⟩ | hascii
  · exact hblank
  · cases hblank : isBlank c with
    | false => rfl
    | true =>
      simp only [isBlank, Bool.or_eq_true, Bool.and_eq_true, decide_eq_true_eq,
        beq_iff_eq] at hblank
      omega

/-- A character of a name is none that has another code point. -/
theorem ne_of_isNameChar {c e : Char} (h : isNameChar c = true) (he : isNameChar e = false) :
    c ≠ e := by
  rintro rfl
  rw [h] at he
  cases he

/-- No character of a name is padding. -/
theorem isPadding_of_isNameChar {c : Char} (h : isNameChar c = true) :
    Placeholder.isPadding c = false := by
  have := toNat_of_isNameChar h
  simp only [Placeholder.isPadding, decide_eq_false_iff_not]
  omega

/-- No character of a name ends it. -/
theorem endsName_of_isNameChar {c : Char} (h : isNameChar c = true) : endsName c = false := by
  have hdot := ne_of_isNameChar h (by decide : isNameChar '.' = false)
  have hcomma := ne_of_isNameChar h (by decide : isNameChar ',' = false)
  have hcolon := ne_of_isNameChar h (by decide : isNameChar ':' = false)
  have hbracket := ne_of_isNameChar h (by decide : isNameChar '[' = false)
  simp [endsName, isBlank_of_isNameChar h, hdot, hcomma, hcolon, hbracket]

/-- What may be the name of a loop variable: an identifier, and no name for a pass. -/
structure IsName (name : String) : Prop where
  ne_nil : name.toList ≠ []
  chars : ∀ c ∈ name.toList, isNameChar c = true
  plain : ¬"__frch_".toList <+: name.toList

instance (name : String) : Decidable (IsName name) :=
  decidable_of_iff (name.toList ≠ [] ∧ name.toList.all isNameChar = true ∧
      ¬"__frch_".toList <+: name.toList)
    ⟨fun ⟨hne, hchars, hplain⟩ => ⟨hne, List.all_eq_true.mp hchars, hplain⟩,
      fun h => ⟨h.ne_nil, List.all_eq_true.mpr h.chars, h.plain⟩⟩

/-- What names for a pass start with is made of the characters of names. -/
theorem isNameChar_of_mem_lead {c : Char} (h : c ∈ "__frch_".toList) : isNameChar c = true := by
  have hall : "__frch_".toList.all isNameChar = true := by decide
  exact List.all_eq_true.mp hall c h

end LoopScope

open LoopScope

/-- The characters of a name for a pass. -/
theorem toList_passName (name : String) (id : Nat) :
    (passName name id).toList = "__frch_".toList ++ (name.toList ++ '_' :: Nat.toDigits 10 id) := by
  simp [passName, toString, Nat.repr]

/-- The digits at the end of a text tell the number behind its last underscore. -/
theorem toDigits_eq_of_append {first second : Text} {m n : Nat}
    (h : first ++ '_' :: Nat.toDigits 10 m = second ++ '_' :: Nat.toDigits 10 n) : m = n := by
  have htail (start : Text) (k : Nat) :
      (start ++ '_' :: Nat.toDigits 10 k).reverse.takeWhile (· ≠ '_') =
        (Nat.toDigits 10 k).reverse := by
    rw [List.reverse_append, List.reverse_cons, List.append_assoc, List.takeWhile_append_of_pos]
    · simp
    · intro c hc
      have hne : c ≠ '_' := by
        rintro rfl
        exact Nat.underscore_not_in_toDigits (List.mem_reverse.mp hc)
      simpa using hne
  have hdigits : Nat.toDigits 10 m = Nat.toDigits 10 n := by
    rw [← List.reverse_inj, ← htail first, ← htail second, h]
  exact Nat.repr_inj.mp (congrArg String.ofList hdigits)

/-- Names for two passes differ. -/
theorem id_eq_of_passName_eq {first second : String} {m n : Nat}
    (h : passName first m = passName second n) : m = n := by
  have hlist := congrArg String.toList h
  rw [toList_passName, toList_passName] at hlist
  exact toDigits_eq_of_append (List.append_cancel_left hlist)

/-- Names for a pass tell the variable. -/
theorem name_eq_of_passName_eq {first second : String} {m n : Nat}
    (h : passName first m = passName second n) : first = second := by
  obtain rfl := id_eq_of_passName_eq h
  have hlist := congrArg String.toList h
  rw [toList_passName, toList_passName] at hlist
  exact String.toList_inj.mp (List.append_cancel_right (List.append_cancel_left hlist))

/-- What does not start as names for a pass do. -/
def LoopScope.IsPlain (name : String) : Prop := ¬"__frch_".toList <+: name.toList

instance (name : String) : Decidable (IsPlain name) := inferInstanceAs (Decidable (¬_))

/-- A plain name is none for a pass. -/
theorem LoopScope.IsPlain.ne_passName {name : String} (h : IsPlain name) (other : String)
    (id : Nat) : name ≠ passName other id := by
  rintro rfl
  refine h ?_
  rw [toList_passName]
  exact List.prefix_append _ _

/-- No loop variable has the name of one for a pass. -/
theorem LoopScope.IsName.ne_passName {name : String} (h : IsName name) (other : String) (id : Nat) :
    name ≠ passName other id := IsPlain.ne_passName h.plain other id

/-- A name for a pass is made of the characters of names. -/
theorem LoopScope.IsName.chars_passName {name : String} (h : IsName name) (id : Nat) :
    ∀ c ∈ (passName name id).toList, isNameChar c = true := by
  intro c hc
  rw [toList_passName, List.mem_append, List.mem_append, List.mem_cons] at hc
  rcases hc with hc | hc | rfl | hc
  · exact isNameChar_of_mem_lead hc
  · exact h.chars c hc
  · decide
  · exact isNameChar_of_isDigit (Nat.isDigit_of_mem_toDigits (by decide) (by decide) hc)

end SqlTemplate
