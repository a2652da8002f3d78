import SqlTemplate.Proofs.Results
import SqlTemplate.Statement.Wire

/-!
# Sending values

The declared type of a marker matters for its value only where it is a scalar type other than the
value's own. Otherwise the value is sent as it is, and nothing but the range of a narrow integer
type can refuse it.
-/

namespace SqlTemplate

open Results

/-- A type suits a value if no scalar type but the value's own is asked for. -/
def ValueType.Suits (declared : ValueType) (value : Value) : Prop :=
  declared.isScalar = true → value = .null ∨ declared = .of value

namespace WireValue

/-- A value as it is sent where no other type is declared for it. -/
def send (property : Text) (sqlType : Option SqlType) : Value → Except Error WireValue
  | .null => .ok null
  | .bool b => .ok (bool b)
  | .str s => .ok (text s.toList)
  | .num (.float x) => .ok (ofFloat sqlType x)
  | .num (.int n) =>
    if Number.inRange n then
      let (count, name) := width sqlType
      if fits count n then .ok (int count n)
      else .error (.evaluation property (.outOfRange name))
    else .ok (ofFloat sqlType (Binary64.ofInt n))
  | .arr items => .ok (json (.arr items))
  | .obj fields => .ok (json (.obj fields))

/-- A value is sent as it is if the declared type suits it. -/
theorem ofValue_of_suits {m : Mapping} {value : Value} (h : m.valueType.Suits value) :
    ofValue m value = send m.property m.sqlType value := by
  have hmatch : (m.valueType.isScalar && !value.isNull &&
      decide (m.valueType ≠ ValueType.of value)) = false := by
    cases hscalar : m.valueType.isScalar with
    | false => rfl
    | true =>
      rcases h hscalar with rfl | hsame
      · simp [Value.isNull]
      · simp [hsame]
  have hfloat (n : Int) (hvalue : value = .num (.int n)) : m.valueType ≠ .float := by
    intro hdeclared
    rw [hdeclared, hvalue] at h
    rcases h rfl with hnull | hsame
    · cases hnull
    · cases hsame
  unfold ofValue
  simp only [hmatch, Bool.false_and, Bool.false_eq_true, if_false]
  cases value with
  | num n =>
    cases n with
    | int n =>
      have hdeclared : decide (m.valueType = .float) = false := by simpa using hfloat n rfl
      simp only [send, hdeclared, Bool.false_or]
      cases Number.inRange n <;> rfl
    | float x => rfl
  | _ => rfl

/-- Every integer that arithmetic can hold fits eight bytes. -/
theorem fits_eight {n : Int} (h : Number.inRange n = true) : fits 8 n = true := by
  have hbounds : Number.least ≤ n ∧ n ≤ Number.largest := by simpa [Number.inRange] using h
  unfold Number.least Number.largest at hbounds
  have hbits : (1 <<< (8 * 8 - 1) : Nat) = 9223372036854775808 := by decide
  simp only [fits, hbits, Bool.and_eq_true, decide_eq_true_eq]
  omega

/-- Only an integer that a narrow type cannot hold is refused, for its range. -/
theorem of_send_eq_error {property : Text} {sqlType : Option SqlType} {value : Value} {e : Error}
    (h : send property sqlType value = .error e) :
    ∃ n, value = .num (.int n) ∧ fits (width sqlType).1 n = false ∧
      (e = .evaluation property (.outOfRange "SMALLINT") ∧
          (sqlType = some .tinyInt ∨ sqlType = some .smallInt) ∨
        e = .evaluation property (.outOfRange "INTEGER") ∧ sqlType = some .integer) := by
  cases value with
  | num number =>
    cases number with
    | int n =>
      simp only [send] at h
      split at h
      · rename_i hrange
        cases hfits : fits (width sqlType).1 n with
        | true => rw [hfits, if_pos rfl] at h; cases h
        | false =>
          rw [hfits, if_neg (by decide)] at h
          obtain rfl := (Except.error.inj h).symm
          refine ⟨n, rfl, hfits, ?_⟩
          unfold width at hfits ⊢
          split
          · exact .inl ⟨rfl, .inl rfl⟩
          · exact .inl ⟨rfl, .inr rfl⟩
          · exact .inr ⟨rfl, rfl⟩
          · simp [fits_eight hrange] at hfits
      · cases h
    | float x => cases h
  | _ => cases h

/-- What is wrong with a value that is not sent. -/
inductive Refusal
  /-- The type that is asked for cannot hold the integer. -/
  | outOfRange (property : Text) (name : String)
  /-- The value has another type than the one declared. -/
  | typeMismatch (property : Text) (declared actual : ValueType)
  deriving DecidableEq

/-- The error that says it. -/
def Refusal.error : Refusal → Error
  | outOfRange property name => .evaluation property (.outOfRange name)
  | typeMismatch property declared actual => .evaluation property (.typeMismatch declared actual)

/-- The refusal that a result is, if it is one. -/
def refusal? {α : Type} : Except Error α → Option Refusal
  | .error (.evaluation property (.outOfRange name)) => some (.outOfRange property name)
  | .error (.evaluation property (.typeMismatch declared actual)) =>
    some (.typeMismatch property declared actual)
  | _ => none

/-- A refusal is found as the error that says it. -/
theorem eq_error_of_refusal? {α : Type} {result : Except Error α} {refusal : Refusal}
    (h : refusal? result = some refusal) : result = .error refusal.error := by
  unfold refusal? at h
  split at h
  · cases h
    rfl
  · cases h
    rfl
  · cases h

end WireValue

end SqlTemplate
