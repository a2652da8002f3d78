import Mathlib.Tactic.Ring
import SqlTemplate.Proofs.Statement.Wire

/-!
# Integers on the wire

An integer that arithmetic can hold is sent in as many bytes as its SQL type has, and the bytes tell
exactly this integer, unless the type is too narrow and refuses it. A larger one is no integer on
the wire: it is sent as the float next to it.
-/

namespace SqlTemplate.WireValue

/-- The number that bytes make up, most significant first. -/
def unsigned (bytes : List UInt8) : Nat := bytes.foldl (fun n byte => 256 * n + byte.toNat) 0

/-- The integer that bytes stand for in two's complement, most significant first. -/
def signed (bytes : List UInt8) : Int :=
  let n := unsigned bytes
  if 2 * n < 256 ^ bytes.length then n else n - (256 ^ bytes.length : Nat)

/-- As many bytes are sent as asked for. -/
theorem length_bigEndian (count n : Nat) : (bigEndian count n).length = count := by
  induction count with
  | zero => rfl
  | succ count ih => rw [bigEndian, List.length_cons, ih]

/-- Bytes that are read after others go on with their number. -/
theorem foldl_bigEndian (start count n : Nat) :
    (bigEndian count n).foldl (fun m byte => 256 * m + byte.toNat) start =
      256 ^ count * start + n % 256 ^ count := by
  induction count generalizing start with
  | zero => simp [bigEndian, Nat.mod_one]
  | succ count ih =>
    have hbyte : (UInt8.ofNat (n >>> (8 * count))).toNat = n / 256 ^ count % 256 := by
      rw [UInt8.toNat_ofNat', Nat.shiftRight_eq_div_pow, Nat.pow_mul]
    rw [bigEndian, List.foldl_cons, ih, hbyte, Nat.mod_pow_succ, Nat.pow_succ]
    ring

/-- The bytes of a number that they can hold tell the number. -/
theorem unsigned_bigEndian {count n : Nat} (h : n < 256 ^ count) :
    unsigned (bigEndian count n) = n := by
  rw [unsigned, foldl_bigEndian, Nat.mul_zero, Nat.zero_add, Nat.mod_eq_of_lt h]

/-- The powers of two between which the integers lie that fit some bytes. -/
theorem fits_iff {count : Nat} {n : Int} :
    fits count n = true ↔ -2 ^ (8 * count - 1) ≤ n ∧ n < 2 ^ (8 * count - 1) := by
  simp [fits, Nat.one_shiftLeft]

/-- The bytes of an integer that fits them tell the integer. -/
theorem signed_bytes {count : Nat} {n : Int} (hcount : 0 < count) (h : fits count n = true) :
    signed (int count n).bytes = n := by
  have hlength : (int count n).bytes.length = count := by rw [bytes, length_bigEndian]
  have hshift : 1 <<< (8 * count) = 256 ^ count := by rw [Nat.one_shiftLeft, Nat.pow_mul]
  have hmodulus : 256 ^ count = 2 * 1 <<< (8 * count - 1) := by
    rw [Nat.one_shiftLeft, ← Nat.pow_succ', show (8 * count - 1).succ = 8 * count by omega,
      Nat.pow_mul]
  have hbounds : -((1 <<< (8 * count - 1) : Nat) : Int) ≤ n ∧
      n < ((1 <<< (8 * count - 1) : Nat) : Int) := by
    simpa only [fits, Bool.and_eq_true, decide_eq_true_eq] using h
  have hread (hrest : (n % ((256 ^ count : Nat) : Int)).toNat < 256 ^ count) :
      unsigned (int count n).bytes = (n % ((256 ^ count : Nat) : Int)).toNat := by
    rw [bytes, hshift, unsigned_bigEndian hrest]
  rw [signed, hlength]
  generalize 1 <<< (8 * count - 1) = half at *
  generalize 256 ^ count = modulus at *
  -- a negative integer is sent as what it is short of the modulus
  rcases Int.lt_or_le n 0 with hneg | hpos
  · have hrest : n % (modulus : Int) = n + modulus := by
      rw [← Int.add_emod_right, Int.emod_eq_of_lt (by omega) (by omega)]
    rw [hrest] at hread
    rw [hread (by omega), if_neg (by omega)]
    omega
  · have hrest : n % (modulus : Int) = n := Int.emod_eq_of_lt hpos (by omega)
    rw [hrest] at hread
    rw [hread (by omega), if_pos (by omega)]
    omega

/-- The SQL types that take narrow integers: two small ones, and `INTEGER`. -/
theorem width_eq (sqlType : Option SqlType) :
    width sqlType =
      if sqlType = some .tinyInt ∨ sqlType = some .smallInt then (2, "SMALLINT")
      else if sqlType = some .integer then (4, "INTEGER") else (8, "integer") := by
  unfold width
  split
  · rfl
  · rfl
  · rfl
  · rename_i htiny hsmall hinteger
    rw [if_neg (not_or.mpr ⟨htiny, hsmall⟩), if_neg hinteger]

/-- No float is sent as an integer. -/
theorem ofFloat_ne_int {sqlType : Option SqlType} {x : Float} {count : Nat} {n : Int} :
    ofFloat sqlType x ≠ int count n := by
  unfold ofFloat
  split <;> exact nofun

/-- An integer that is declared as one, or not declared at all, is sent by its own range and that of
the SQL type. -/
theorem ofValue_int {m : Mapping} (hdeclared : m.valueType = .any ∨ m.valueType = .integer)
    (n : Int) :
    ofValue m (.num (.int n)) = send m.property m.sqlType (.num (.int n)) := by
  refine ofValue_of_suits fun hscalar => .inr ?_
  rcases hdeclared with hany | hinteger
  · rw [hany] at hscalar
    cases hscalar
  · exact hinteger

/-- An integer that arithmetic can hold is sent exactly, in as many bytes as the SQL type has,
unless the type is too narrow for it and refuses it. Any other integer is neither sent as one nor
refused: the nearest float goes in its place. -/
theorem integer_sent_exactly_iff {m : Mapping}
    (hdeclared : m.valueType = .any ∨ m.valueType = .integer) (n : Int) :
    let small := m.sqlType = some .tinyInt ∨ m.sqlType = some .smallInt
    let count := if small then 2 else if m.sqlType = some .integer then 4 else 8
    let name :=
      if small then "SMALLINT" else if m.sqlType = some .integer then "INTEGER" else "integer"
    let result := ofValue m (.num (.int n))
    let sent := result = .ok (.int count n) ∧ (int count n).bytes.length = count ∧
      signed (int count n).bytes = n
    let refused := result = .error (.evaluation m.property (.outOfRange name))
    (sent ∨ refused ↔ Number.least ≤ n ∧ n ≤ Number.largest) ∧
      (Number.least ≤ n ∧ n ≤ Number.largest →
        if -2 ^ (8 * count - 1) ≤ n ∧ n < 2 ^ (8 * count - 1) then sent else refused) ∧
      (¬ (Number.least ≤ n ∧ n ≤ Number.largest) →
        result = .ok (ofFloat m.sqlType (Binary64.ofInt n))) := by
  intro small count name result sent refused
  have hwidth : width m.sqlType = (count, name) := by
    simp only [width_eq, count, name]
    split_ifs <;> rfl
  have hpositive : 0 < count := by
    simp only [count]
    split_ifs <;> decide
  have hresult : result = if Number.inRange n then
      if fits count n then .ok (.int count n)
      else .error (.evaluation m.property (.outOfRange name))
      else .ok (ofFloat m.sqlType (Binary64.ofInt n)) := by
    rw [show result = _ from ofValue_int hdeclared n, send, hwidth]
  by_cases hrange : Number.least ≤ n ∧ n ≤ Number.largest
  · have hin : Number.inRange n = true := by simpa [Number.inRange] using hrange
    rw [if_pos hin] at hresult
    have hwhich : if -2 ^ (8 * count - 1) ≤ n ∧ n < 2 ^ (8 * count - 1) then sent else refused := by
      split_ifs with hfits
      · have hfits := fits_iff.mpr hfits
        rw [if_pos hfits] at hresult
        exact ⟨hresult, length_bigEndian _ _, signed_bytes hpositive hfits⟩
      · rw [if_neg (mt fits_iff.mp hfits)] at hresult
        exact hresult
    refine ⟨⟨fun _ => hrange, fun _ => ?_⟩, fun _ => hwhich, fun h => absurd hrange h⟩
    split_ifs at hwhich
    · exact .inl hwhich
    · exact .inr hwhich
  · have hout : ¬ Number.inRange n = true := by simpa [Number.inRange] using hrange
    rw [if_neg hout] at hresult
    refine ⟨⟨?_, fun h => absurd h hrange⟩, fun h => absurd h hrange, fun _ => hresult⟩
    rintro (⟨hint, -⟩ | herror)
    · exact absurd (Except.ok.inj (hresult.symm.trans hint)) ofFloat_ne_int
    · cases hresult.symm.trans herror

/-- The least integer of four bytes is sent in them, and one less is refused. -/
theorem integer_sent_exactly_of_four_bytes :
    let m : Mapping :=
      { property := "id".toList
        valueType := .integer
        handler := ⟨"integer", .integer⟩
        sqlType := some .integer }
    let least : Int := -2147483648
    m.valueType = .integer ∧
      ofValue m (.num (.int least)) = .ok (.int 4 least) ∧
      (int 4 least).bytes = [0x80, 0, 0, 0] ∧ signed (int 4 least).bytes = least ∧
      ofValue m (.num (.int (least - 1))) =
        .error (.evaluation m.property (.outOfRange "INTEGER")) := by
  intro m least
  obtain ⟨-, hleast, -⟩ := integer_sent_exactly_iff (m := m) (.inr rfl) least
  obtain ⟨hsent, -, hsigned⟩ := hleast (by decide)
  obtain ⟨-, hbelow, -⟩ := integer_sent_exactly_iff (m := m) (.inr rfl) (least - 1)
  exact ⟨rfl, hsent, by decide, hsigned, hbelow (by decide)⟩

/-- Beyond the range of arithmetic an integer is neither sent as one nor refused. The float that
goes in its place is also the one for the integer before it. -/
theorem not_integer_sent_exactly :
    let m : Mapping :=
      { property := "id".toList
        valueType := .integer
        handler := ⟨"integer", .integer⟩ }
    let n : Int := 9223372036854775809
    ¬ (ofValue m (.num (.int n)) = .ok (.int 8 n) ∨
        ofValue m (.num (.int n)) = .error (.evaluation m.property (.outOfRange "integer"))) ∧
      ofValue m (.num (.int n)) = .ok (.float8 (Binary64.ofInt n)) ∧
      ofValue m (.num (.int (n - 1))) = ofValue m (.num (.int n)) := by
  intro m n
  have hfloat : ofValue m (.num (.int n)) = .ok (.float8 (Binary64.ofInt n)) := rfl
  have hbefore : ofValue m (.num (.int (n - 1))) = .ok (.float8 (Binary64.ofInt (n - 1))) := rfl
  have hbits : Binary64.nearestBits (n - 1).natAbs 1 = Binary64.nearestBits n.natAbs 1 := by
    decide +kernel
  have hsame : Binary64.ofInt (n - 1) = Binary64.ofInt n := by
    unfold Binary64.ofInt Binary64.ofRatio
    rw [hbits]
    rfl
  refine ⟨?_, hfloat, by rw [hbefore, hfloat, hsame]⟩
  rintro (hint | herror)
  · cases hfloat.symm.trans hint
  · cases hfloat.symm.trans herror

end SqlTemplate.WireValue
