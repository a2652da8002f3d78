import SqlTemplate.Text

/-!
# Matching up to the case of letters

A lead or a tail of a text is looked for up to the case of ASCII letters. As the case of a letter
does not change its size, it makes no difference whether the text is cut at a number of characters
or at a number of bytes: where a match ends, a character ends.
-/

namespace SqlTemplate.Text

/-- Only ASCII letters have a lower case of their own. -/
theorem toLower_cases (c : Char) : c.toLower = c ∨ 65 ≤ c.toNat ∧ c.toNat ≤ 90 := by
  unfold Char.toLower
  split
  · rename_i h
    exact .inr ⟨UInt32.le_iff_toNat_le.mp h.1, UInt32.le_iff_toNat_le.mp h.2⟩
  · exact .inl rfl

/-- The two cases of a letter take as many bytes. -/
theorem utf8Size_toLower (c : Char) : c.toLower.utf8Size = c.utf8Size := by
  unfold Char.toLower
  split
  · rename_i h
    have hle : c.val.toNat ≤ 90 := UInt32.le_iff_toNat_le.mp h.2
    have hstep : ('a'.val - 'A'.val).toNat = 32 := by decide
    have hupper : c.val ≤ 127 := by
      rw [UInt32.le_iff_toNat_le]
      exact Nat.le_trans hle (by decide)
    have hlower : c.val + ('a'.val - 'A'.val) ≤ 127 := by
      rw [UInt32.le_iff_toNat_le, UInt32.toNat_add, hstep]
      have hsum : c.val.toNat + 32 ≤ 127 := by omega
      exact Nat.le_trans (Nat.mod_le _ _) hsum
    rw [Char.utf8Size_eq_one_iff.mpr hupper, Char.utf8Size_eq_one_iff.mpr hlower]
  · rfl

/-- Texts that differ in the case of letters only take as many bytes. -/
theorem byteSize_of_sameLetters {left right : Text} (h : sameLetters left right = true) :
    byteSize left = byteSize right := by
  have hlower (text : Text) : byteSize (text.map Char.toLower) = byteSize text := by
    induction text with
    | nil => rfl
    | cons c rest ih => rw [List.map_cons, byteSize_cons, byteSize_cons, utf8Size_toLower, ih]
  rw [← hlower left, eq_of_beq h, hlower right]

/-- A lead up to the case of letters is a start of the text. -/
theorem eq_of_afterLead? {lead text rest : Text} (h : afterLead? lead text = some rest) :
    ∃ head, text = head ++ rest ∧ head.map Char.toLower = lead.map Char.toLower := by
  unfold afterLead? at h
  split at h
  rename_i head tail hsplit
  split at h
  · rename_i hsame
    obtain rfl := Option.some.inj h
    obtain ⟨rfl, rfl⟩ := Prod.mk.inj ((List.splitAt_eq ..).symm.trans hsplit)
    exact ⟨_, (List.take_append_drop ..).symm, eq_of_beq hsame⟩
  · cases h

/-- A tail up to the case of letters is an end of the text. -/
theorem eq_of_beforeTail? {tail text rest : Text} (h : beforeTail? tail text = some rest) :
    ∃ last, text = rest ++ last ∧ last.map Char.toLower = tail.map Char.toLower := by
  unfold beforeTail? at h
  split at h
  rename_i head last hsplit
  split at h
  · rename_i hsame
    obtain rfl := Option.some.inj h
    obtain ⟨rfl, rfl⟩ := Prod.mk.inj ((List.splitAt_eq ..).symm.trans hsplit)
    exact ⟨_, (List.take_append_drop ..).symm, eq_of_beq hsame⟩
  · cases h

/-- A word in any case is a lead of what follows it. -/
theorem afterLead?_append {word lead : Text} (h : sameLetters word lead = true)
    (rest : Text) : afterLead? lead (word ++ rest) = some rest := by
  have hlength : word.length = lead.length := by
    simpa using congrArg List.length (eq_of_beq h)
  rw [afterLead?, List.splitAt_eq, ← hlength, List.take_left, List.drop_left]
  exact if_pos h

/-- A word in any case is a tail of what stands before it. -/
theorem beforeTail?_append {word tail : Text} (h : sameLetters word tail = true) (rest : Text) :
    beforeTail? tail (rest ++ word) = some rest := by
  have hlength : word.length = tail.length := by
    simpa using congrArg List.length (eq_of_beq h)
  rw [beforeTail?, List.splitAt_eq, List.length_append, hlength, Nat.add_sub_cancel,
    List.take_left, List.drop_left]
  exact if_pos h

/-- What follows a lead is found exactly if some word that is the lead in any case precedes it. -/
theorem afterLead?_eq_some_iff {lead text rest : Text} :
    afterLead? lead text = some rest ↔
      ∃ word, text = word ++ rest ∧ sameLetters word lead = true := by
  constructor
  · intro h
    obtain ⟨word, htext, hword⟩ := eq_of_afterLead? h
    exact ⟨word, htext, beq_iff_eq.mpr hword⟩
  · rintro ⟨word, rfl, hword⟩
    exact afterLead?_append hword rest

/-- What precedes a tail is found exactly if some word that is the tail in any case follows it. -/
theorem beforeTail?_eq_some_iff {tail text rest : Text} :
    beforeTail? tail text = some rest ↔
      ∃ word, text = rest ++ word ∧ sameLetters word tail = true := by
  constructor
  · intro h
    obtain ⟨word, htext, hword⟩ := eq_of_beforeTail? h
    exact ⟨word, htext, beq_iff_eq.mpr hword⟩
  · rintro ⟨word, rfl, hword⟩
    exact beforeTail?_append hword rest

/-- The two parts of a text before and after a number of bytes. There are none if the text has not
so many, or if a character goes across the cut. -/
def cutAt? : (bytes : Nat) → Text → Option (Text × Text)
  | 0, text => some ([], text)
  | _ + 1, [] => none
  | bytes + 1, c :: rest =>
    if c.utf8Size ≤ bytes + 1 then
      (cutAt? (bytes + 1 - c.utf8Size) rest).map fun (before, after) => (c :: before, after)
    else none

/-- A text is cut into two parts of which the first one takes the bytes. -/
theorem cutAt?_eq_some_iff {bytes : Nat} {text before after : Text} :
    cutAt? bytes text = some (before, after) ↔
      text = before ++ after ∧ byteSize before = bytes := by
  constructor
  · intro h
    fun_induction cutAt? bytes text generalizing before with
    | case1 =>
      obtain ⟨rfl, rfl⟩ := Prod.mk.inj (Option.some.inj h)
      exact ⟨rfl, rfl⟩
    | case2 => cases h
    | case3 bytes c rest hfits ih =>
      obtain ⟨⟨first, later⟩, hcut, heq⟩ := Option.map_eq_some_iff.mp h
      obtain ⟨rfl, rfl⟩ := Prod.mk.inj heq
      obtain ⟨htext, hsize⟩ := ih hcut
      exact ⟨by rw [htext, List.cons_append], by rw [byteSize_cons, hsize]; omega⟩
    | case4 => cases h
  · rintro ⟨rfl, rfl⟩
    induction before with
    | nil => cases after <;> rfl
    | cons c rest ih =>
      have hpos := c.utf8Size_pos
      have hbytes : byteSize (c :: rest) = c.utf8Size - 1 + byteSize rest + 1 := by
        rw [byteSize_cons]
        omega
      have hrest : c.utf8Size - 1 + byteSize rest + 1 - c.utf8Size = byteSize rest := by omega
      rw [hbytes, List.cons_append, cutAt?, if_pos (by omega), hrest, ih]
      rfl

/-- As `afterLead?`, by a cut behind as many bytes as the lead takes. -/
def afterBytes? (lead text : Text) : Option Text :=
  (cutAt? (byteSize lead) text).bind fun (head, rest) =>
    if sameLetters head lead then some rest else none

/-- As `beforeTail?`, by a cut before as many bytes as the tail takes. -/
def beforeBytes? (tail text : Text) : Option Text :=
  if byteSize tail ≤ byteSize text then
    (cutAt? (byteSize text - byteSize tail) text).bind fun (rest, last) =>
      if sameLetters last tail then some rest else none
  else none

/-- A lead is found by bytes as it is by characters. -/
theorem afterBytes?_eq (lead text : Text) : afterBytes? lead text = afterLead? lead text := by
  ext rest
  rw [afterBytes?, afterLead?_eq_some_iff, Option.bind_eq_some_iff]
  constructor
  · rintro ⟨⟨head, after⟩, hcut, hhead⟩
    dsimp only at hhead
    split at hhead
    · rename_i hsame
      obtain rfl := Option.some.inj hhead
      exact ⟨head, (cutAt?_eq_some_iff.mp hcut).1, hsame⟩
    · cases hhead
  · rintro ⟨word, htext, hword⟩
    exact ⟨(word, rest), cutAt?_eq_some_iff.mpr ⟨htext, byteSize_of_sameLetters hword⟩,
      if_pos hword⟩

/-- A tail is found by bytes as it is by characters. -/
theorem beforeBytes?_eq (tail text : Text) : beforeBytes? tail text = beforeTail? tail text := by
  ext rest
  rw [beforeBytes?, beforeTail?_eq_some_iff]
  constructor
  · intro h
    split at h
    · obtain ⟨⟨before, last⟩, hcut, hlast⟩ := Option.bind_eq_some_iff.mp h
      dsimp only at hlast
      split at hlast
      · rename_i hsame
        obtain rfl := Option.some.inj hlast
        exact ⟨last, (cutAt?_eq_some_iff.mp hcut).1, hsame⟩
      · cases hlast
    · cases h
  · rintro ⟨word, rfl, hword⟩
    have hsize := byteSize_of_sameLetters hword
    have hcut : cutAt? (byteSize (rest ++ word) - byteSize tail) (rest ++ word) =
        some (rest, word) :=
      cutAt?_eq_some_iff.mpr ⟨rfl, by rw [byteSize_append]; omega⟩
    rw [if_pos (by rw [byteSize_append]; omega), hcut]
    exact if_pos hword

end SqlTemplate.Text
