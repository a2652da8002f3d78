import SqlTemplate.Decimal.Binary64

/-!
# Values

Parameters, bindings and the results of expressions are JSON values. The fields of an object are
kept in the order of their keys; `Fields` is that order's one table type, also for bindings.
-/

namespace SqlTemplate

/-- A number is an integer or a finite float; the two never mix on their own. -/
inductive Number
  | int (n : Int)
  | float (x : Float)

/-- A JSON value. The fields of an object stand in the order of their keys. -/
inductive Value
  | null
  | bool (b : Bool)
  | num (n : Number)
  | str (s : String)
  | arr (items : List Value)
  | obj (fields : List (String × Value))

instance : Inhabited Value := ⟨.null⟩

/-- Values under names, in the order of the names' code points. -/
abbrev Fields := List (String × Value)

namespace Fields

/-- The value under `name`. -/
def get? (fields : Fields) (name : String) : Option Value := fields.lookup name

/-- Whether there is a value under `name`. -/
def contains (fields : Fields) (name : String) : Bool := (fields.get? name).isSome

/-- The fields with `value` under `name`, in place of any value that was there. -/
def insert (name : String) (value : Value) : Fields → Fields
  | [] => [(name, value)]
  | (key, old) :: rest =>
    if name = key then (name, value) :: rest
    else if name < key then (name, value) :: (key, old) :: rest
    else (key, old) :: insert name value rest

/-- The fields without a value under `name`. -/
def erase (fields : Fields) (name : String) : Fields := fields.filter (·.1 ≠ name)

/-- The fields of a list of pairs; of two values under one name the later one stays. -/
def ofList (pairs : List (String × Value)) : Fields :=
  pairs.foldl (fun fields (name, value) => insert name value fields) []

/-- Nothing is found without fields. -/
@[simp] theorem get?_nil (name : String) : get? [] name = none := rfl

/-- The first field counts if it has the name. -/
theorem get?_cons (key name : String) (value : Value) (rest : Fields) :
    get? ((key, value) :: rest) name = if name = key then some value else get? rest name := by
  by_cases h : name = key
  · simp [get?, h]
  · have hne : (name == key) = false := beq_eq_false_iff_ne.mpr h
    simp only [get?, List.lookup_cons, hne, h, if_false]

/-- A value is found under the name it was inserted under, and no other name is touched. -/
theorem get?_insert (fields : Fields) (name other : String) (value : Value) :
    get? (insert name value fields) other =
      if other = name then some value else get? fields other := by
  induction fields with
  | nil => simp [insert, get?_cons]
  | cons field rest ih =>
    obtain ⟨key, old⟩ := field
    simp only [insert]
    split
    · subst_vars
      by_cases h : other = key <;> simp [get?_cons, h]
    · split
      · simp [get?_cons]
      · by_cases h : other = name
        · subst h
          simp [get?_cons, *]
        · simp [get?_cons, ih, h]

/-- Nothing is found under an erased name, and no other name is touched. -/
theorem get?_erase (fields : Fields) (name other : String) :
    get? (erase fields name) other = if other = name then none else get? fields other := by
  induction fields with
  | nil => simp [erase]
  | cons field rest ih =>
    obtain ⟨key, value⟩ := field
    by_cases hkey : key = name
    · subst hkey
      have : erase ((key, value) :: rest) key = erase rest key := by simp [erase]
      rw [this, ih]
      by_cases h : other = key <;> simp [get?_cons, h]
    · have : erase ((key, value) :: rest) name = (key, value) :: erase rest name := by
        simp [erase, hkey]
      rw [this, get?_cons, get?_cons, ih]
      by_cases h : other = key
      · subst h
        simp [hkey]
      · simp [h]

end Fields

namespace Number

/-- The least and the largest integer that arithmetic yields. -/
def least : Int := -0x8000000000000000

/-- The largest integer that arithmetic yields. -/
def largest : Int := 0x7FFFFFFFFFFFFFFF

/-- Whether arithmetic can hold the integer exactly. -/
def inRange (n : Int) : Bool := decide (least ≤ n) && decide (n ≤ largest)

/-- The float nearest to a number. -/
def toFloat : Number → Float
  | .int n => Binary64.ofInt n
  | .float x => x

end Number

namespace Value

/-- The integer `n`. -/
def ofInt (n : Int) : Value := .num (.int n)

/-- The integer `n`. -/
def ofNat (n : Nat) : Value := .num (.int n)

/-- A finite float; what is not finite is no number and becomes `null`. -/
def ofFloat (x : Float) : Value := if x.isFinite then .num (.float x) else .null

/-- The object with the given fields. -/
def ofPairs (pairs : List (String × Value)) : Value := .obj (Fields.ofList pairs)

/-- Whether the value is `null`. -/
def isNull : Value → Bool
  | .null => true
  | _ => false

mutual

/-- Equality of values. An integer never equals a float, and floats are compared as numbers. -/
def same : Value → Value → Bool
  | .null, .null => true
  | .bool a, .bool b => a == b
  | .num (.int a), .num (.int b) => a == b
  | .num (.float a), .num (.float b) => a == b
  | .str a, .str b => a == b
  | .arr a, .arr b => sameItems a b
  | .obj a, .obj b => sameFields a b
  | _, _ => false

/-- Equality of lists, item by item. -/
def sameItems : List Value → List Value → Bool
  | [], [] => true
  | a :: as, b :: bs => same a b && sameItems as bs
  | _, _ => false

/-- Equality of objects, field by field in key order. -/
def sameFields : List (String × Value) → List (String × Value) → Bool
  | [], [] => true
  | (k, a) :: as, (l, b) :: bs => k == l && same a b && sameFields as bs
  | _, _ => false

end

end Value

end SqlTemplate
