import SqlTemplate.Proofs.Matching
import SqlTemplate.Scan

/-!
# Places in a text

A place in a text is a number of bytes. A text has no byte at its end and no slice whose ends lie
inside a character. Places between characters are safe: what is read and found there is what stands
there, and a backslash before such a place is a character of its own.
-/

namespace SqlTemplate

/-- What cannot be read from a text. -/
inductive Misplaced
  /-- A byte at the end of the text or behind it. -/
  | byte (place : Nat)
  /-- A slice that stops before its start, outside the text or inside a character, or that starts
  inside one. -/
  | slice (start stop : Nat)
  deriving DecidableEq, Repr

namespace Text

variable {text before part after pattern : Text} {start stop : Nat}

/-- The bytes of a text in UTF-8. -/
def bytes (text : Text) : List UInt8 := text.flatMap String.utf8EncodeChar

/-- The byte at a place. -/
def byteAt (text : Text) (place : Nat) : Except Misplaced UInt8 :=
  match text.bytes[place]? with
  | some byte => .ok byte
  | none => .error (.byte place)

/-- The text between two places. -/
def slice (text : Text) (start stop : Nat) : Except Misplaced Text :=
  match (text.cutAt? stop).bind fun (upTo, _) => upTo.cutAt? start with
  | some (_, part) => .ok part
  | none => .error (.slice start stop)

/-- The place of the first occurrence of `pattern` from a place on. Inside a character there is
none. -/
def findFrom? (text pattern : Text) (start : Nat) : Option Nat := do
  let (_, rest) ← text.cutAt? start
  let offset ← offsetOf? pattern rest
  return offset + start

/-- Whether a backslash that is not before `start` stands right before a place. -/
def slashBefore (text : Text) (start place : Nat) : Except Misplaced Bool :=
  if start < place then return (← text.byteAt (place - 1)) == 0x5C else return false

/-- A text that is there takes some bytes. -/
theorem byteSize_pos (h : text ≠ []) : 0 < byteSize text := by
  obtain ⟨c, rest, rfl⟩ := List.exists_cons_of_ne_nil h
  have hpos := c.utf8Size_pos
  rw [byteSize_cons]
  omega

/-- A text can be cut between any two characters. -/
theorem cutAt?_append (before after : Text) :
    cutAt? (byteSize before) (before ++ after) = some (before, after) :=
  cutAt?_eq_some_iff.mpr ⟨rfl, rfl⟩

/-- A slice is what stands between its two places, and neither of them is inside a character. -/
theorem slice_eq_ok_iff : text.slice start stop = .ok part ↔
    ∃ before after, text = before ++ part ++ after ∧ byteSize before = start ∧
      byteSize (before ++ part) = stop := by
  unfold slice
  constructor
  · intro h
    split at h
    · rename_i hcut
      obtain ⟨⟨upTo, after⟩, hstop, hstart⟩ := Option.bind_eq_some_iff.mp hcut
      obtain ⟨rfl, hstopSize⟩ := cutAt?_eq_some_iff.mp hstop
      obtain ⟨rfl, hstartSize⟩ := cutAt?_eq_some_iff.mp hstart
      obtain rfl := Except.ok.inj h
      exact ⟨_, after, rfl, hstartSize, hstopSize⟩
    · cases h
  · rintro ⟨before, after, rfl, rfl, rfl⟩
    rw [cutAt?_append, Option.bind_some]
    dsimp only
    rw [cutAt?_append]

/-- What is found from a place between characters on is the first occurrence in the rest. -/
theorem findFrom?_append (before rest pattern : Text) :
    findFrom? (before ++ rest) pattern (byteSize before) =
      (breakOn pattern rest).map fun (skipped, _) => byteSize (before ++ skipped) := by
  rw [findFrom?, cutAt?_append]
  cases hbreak : breakOn pattern rest with
  | none => simp [offsetOf?, hbreak]
  | some found => simp [offsetOf?, hbreak, Nat.add_comm]

/-- What is found lies between `start` and the end of the text. -/
theorem bounds_of_findFrom? {place : Nat} (h : findFrom? text pattern start = some place) :
    start ≤ place ∧ place ≤ byteSize text := by
  obtain ⟨⟨before, rest⟩, hcut, hfound⟩ := Option.bind_eq_some_iff.mp h
  obtain ⟨rfl, rfl⟩ := cutAt?_eq_some_iff.mp hcut
  rw [findFrom?_append] at h
  obtain ⟨⟨skipped, after⟩, hbreak, rfl⟩ := Option.map_eq_some_iff.mp h
  rw [eq_of_breakOn hbreak]
  simp only [byteSize_append]
  omega

/-- A backslash is found only before a place behind `start`. -/
theorem lt_of_slashBefore {place : Nat} (h : slashBefore text start place = .ok true) :
    start < place := by
  unfold slashBefore at h
  split at h
  · assumption
  · cases h

/-- Bytes stand one after the other as the texts do. -/
theorem bytes_append (before after : Text) : bytes (before ++ after) = bytes before ++ bytes after :=
  List.flatMap_append ..

/-- A text has as many bytes as its characters take. -/
theorem length_bytes (text : Text) : (bytes text).length = byteSize text := by
  induction text with
  | nil => rfl
  | cons c rest ih =>
    rw [bytes, List.flatMap_cons, List.length_append, String.length_utf8EncodeChar, byteSize_cons,
      ← ih, bytes]

/-- A byte below 128 is a character of its own: all bytes of a longer encoding have the highest bit
set. -/
theorem toNat_of_mem_utf8EncodeChar {c : Char} {byte : UInt8} (h : byte ∈ String.utf8EncodeChar c)
    (hbyte : byte.toNat < 128) : c.toNat = byte.toNat := by
  dsimp only [String.utf8EncodeChar] at h
  split at h
  · rename_i hsmall
    rw [List.mem_singleton.mp h, UInt8.toNat_ofNat', Nat.mod_eq_of_lt (by omega)]
    rfl
  · exfalso
    split at h
    · simp only [List.mem_cons, List.not_mem_nil, or_false] at h
      rcases h with rfl | rfl <;> rw [UInt8.toNat_ofNat'] at hbyte <;> omega
    · split at h
      · simp only [List.mem_cons, List.not_mem_nil, or_false] at h
        rcases h with rfl | rfl | rfl <;> rw [UInt8.toNat_ofNat'] at hbyte <;> omega
      · simp only [List.mem_cons, List.not_mem_nil, or_false] at h
        rcases h with rfl | rfl | rfl | rfl <;> rw [UInt8.toNat_ofNat'] at hbyte <;> omega

/-- The encoding of a character ends in the byte of a backslash only if it is one. -/
theorem getLast_utf8EncodeChar (c : Char) :
    (String.utf8EncodeChar c).getLast String.utf8EncodeChar_ne_nil = 0x5C ↔ c = '\\' := by
  constructor
  · intro h
    have hmem : 0x5C ∈ String.utf8EncodeChar c := h ▸ List.getLast_mem String.utf8EncodeChar_ne_nil
    exact Char.toNat_inj.mp (toNat_of_mem_utf8EncodeChar hmem (by decide))
  · rintro rfl
    rfl

/-- The byte right before the place behind a character is the last one of its encoding. -/
theorem byteAt_behind (before after : Text) (c : Char) :
    byteAt (before ++ c :: after) (byteSize before + c.utf8Size - 1) =
      .ok ((String.utf8EncodeChar c).getLast String.utf8EncodeChar_ne_nil) := by
  have hpos := c.utf8Size_pos
  have hindex : byteSize before + c.utf8Size - 1 - (bytes before).length = c.utf8Size - 1 := by
    rw [length_bytes]
    omega
  have hbytes : bytes (before ++ c :: after) =
      bytes before ++ (String.utf8EncodeChar c ++ bytes after) := by
    rw [bytes_append, bytes, bytes, List.flatMap_cons, bytes]
  have hbyte : (bytes (before ++ c :: after))[byteSize before + c.utf8Size - 1]? =
      some ((String.utf8EncodeChar c).getLast String.utf8EncodeChar_ne_nil) := by
    rw [hbytes, List.getElem?_append_right (by rw [length_bytes]; omega), hindex,
      List.getElem?_append_left (by rw [String.length_utf8EncodeChar]; omega),
      ← String.length_utf8EncodeChar, ← List.getLast?_eq_getElem?, List.getLast?_eq_some_getLast]
  rw [byteAt, hbyte]

/-- A backslash is found before the place behind a slice exactly if the slice ends in one. -/
theorem slashBefore_append (before part after : Text) :
    slashBefore (before ++ part ++ after) (byteSize before) (byteSize (before ++ part)) =
      .ok (Delimiters.escapes part) := by
  cases hlast : part.getLast? with
  | none =>
    obtain rfl := List.getLast?_eq_none_iff.mp hlast
    rw [List.append_nil, slashBefore, if_neg (Nat.lt_irrefl _)]
    rfl
  | some c =>
    obtain ⟨start, rfl⟩ := List.getLast?_eq_some_iff.mp hlast
    have hpos := c.utf8Size_pos
    have hsize : byteSize (before ++ (start ++ [c])) = byteSize (before ++ start) + c.utf8Size := by
      simp only [byteSize_append, byteSize_cons, byteSize_nil]
      omega
    have htext : before ++ (start ++ [c]) ++ after = before ++ start ++ c :: after := by simp
    rw [slashBefore, if_pos (by rw [hsize, byteSize_append]; omega), hsize, htext, byteAt_behind,
      Delimiters.escapes, hlast]
    refine congrArg Except.ok (Bool.eq_iff_iff.mpr ?_)
    rw [beq_iff_eq, beq_iff_eq, Option.some_inj, getLast_utf8EncodeChar]

/-- A pattern that is found in a rest stands behind what precedes the rest. -/
theorem append_of_breakOn {rest skipped : Text} (before : Text)
    (h : breakOn pattern rest = some (skipped, after)) :
    before ++ rest = before ++ skipped ++ pattern ++ after := by
  rw [eq_of_breakOn h]
  simp only [List.append_assoc]

/-- A backslash before a pattern that is found belongs to the text before the pattern. -/
theorem slashBefore_of_breakOn {rest skipped : Text} (before : Text)
    (h : breakOn pattern rest = some (skipped, after)) :
    slashBefore (before ++ rest) (byteSize before) (byteSize (before ++ skipped)) =
      .ok (Delimiters.escapes skipped) := by
  rw [append_of_breakOn before h, List.append_assoc (before ++ skipped), slashBefore_append]

end Text

end SqlTemplate
