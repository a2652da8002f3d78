import Mathlib.Data.String.Basic
import SqlTemplate.Expr.Operation

/-!
# Equality and order of values

Equality and order are two walks over the kinds of two values, and both read strings as numbers next
to a number. Without floats they agree: values that have an order are equal where this order says so
and in no other case, and operands that change places change nothing but the direction.
-/

namespace SqlTemplate

namespace Value

/-- A value without floats. Integers are signed and have 64 bits, and a string that reads as a float
reads as such an integer too. -/
inductive FloatFree : Value → Prop
  | null : FloatFree .null
  | bool (b : Bool) : FloatFree (.bool b)
  | num {n : Int} (h : Number.inRange n = true) : FloatFree (.num (.int n))
  | str {s : String} (h : (Text.toFloat? (Text.trim s.toList)).isSome = true →
      ∃ n, Text.toInt? (Text.trim s.toList) = some n ∧ Number.inRange n = true) : FloatFree (.str s)
  | arr {items : List Value} (h : ∀ item ∈ items, FloatFree item) : FloatFree (.arr items)
  | obj {fields : List (String × Value)} (h : ∀ field ∈ fields, FloatFree field.2) :
    FloatFree (.obj fields)

/-- The order of two values as numbers. -/
def compareNumbers? (a b : Value) : Option Ordering :=
  match a.coerce?, b.coerce? with
  | some m, some n => m.compare? n
  | _, _ => none

variable {a b : Value}

/-- Without floats a text reads as an integer if it reads as a number. -/
theorem readNumber?_eq {text : Text} (h : text.trim.toFloat?.isSome = true →
    ∃ n, text.trim.toInt? = some n ∧ Number.inRange n = true) :
    readNumber? text = (text.trim.toInt?.filter Number.inRange).map .int := by
  rw [readNumber?]
  cases hread : text.trim.toInt?.filter Number.inRange with
  | some n => simp only [Option.map_some]
  | none =>
    simp only [Option.map_none, Option.map_eq_none_iff]
    by_contra hfloat
    obtain ⟨n, hn, hrange⟩ := h (Option.isSome_iff_ne_none.mpr hfloat)
    rw [hn, Option.filter_some, if_pos hrange] at hread
    cases hread

/-- Without floats a value is an integer if it is a number at all. -/
theorem FloatFree.coerce?_eq (h : a.FloatFree) : ∃ n : Option Int, a.coerce? = n.map .int := by
  cases h with
  | null => exact ⟨none, rfl⟩
  | bool b => exact ⟨none, rfl⟩
  | @num n hrange =>
    refine ⟨some n, ?_⟩
    rw [coerce?, number?, Number.operand, if_pos hrange, Option.map_some]
    nofun
  | str h => exact ⟨_, readNumber?_eq h⟩
  | arr h => exact ⟨none, rfl⟩
  | obj h => exact ⟨none, rfl⟩

/-- The order of two values as numbers turns around with them. -/
theorem compareNumbers?_swap (ha : a.FloatFree) (hb : b.FloatFree) :
    b.compareNumbers? a = (a.compareNumbers? b).map Ordering.swap := by
  obtain ⟨m, hm⟩ := ha.coerce?_eq
  obtain ⟨n, hn⟩ := hb.coerce?_eq
  rw [compareNumbers?, compareNumbers?, hm, hn]
  cases m with
  | none => cases n <;> rfl
  | some m =>
    cases n with
    | none => rfl
    | some n => exact congrArg some Std.OrientedCmp.eq_swap

/-- What is no number has no order as a number. -/
theorem compareNumbers?_none (a : Value) (h : b.coerce? = none) : a.compareNumbers? b = none := by
  rw [compareNumbers?, h]
  cases a.coerce? <;> rfl

/-- Values are equal with coercion where their order as numbers says so. -/
theorem coerced_eq (a b : Value) : equals.coerced a b = (a.compareNumbers? b == some .eq) := by
  rw [equals.coerced, compareNumbers?]
  cases a.coerce? with
  | none => rfl
  | some m =>
    cases b.coerce? with
    | none => rfl
    | some n => rfl

/-- Two values are compared as strings, as truth values or as numbers, or they have no order. -/
inductive Compared : Value → Value → Prop
  | strings (s t : String) : Compared (.str s) (.str t)
  | truths (x y : Bool) : Compared (.bool x) (.bool y)
  | numbers {a b : Value} (hab : a.compare? b = a.compareNumbers? b)
    (hba : b.compare? a = b.compareNumbers? a)
    (heq : a.equals b = equals.coerced a b) (heq' : b.equals a = equals.coerced b a) :
    Compared a b
  | unordered {a b : Value} (hab : a.compare? b = none) (hba : b.compare? a = none)
    (heq : a.equals b = a.same b) (heq' : b.equals a = b.same a) : Compared a b

/-- How two values are compared does not depend on their places. -/
theorem Compared.symm (h : Compared a b) : Compared b a := by
  cases h with
  | strings s t => exact .strings t s
  | truths x y => exact .truths y x
  | numbers hab hba heq heq' => exact .numbers hba hab heq' heq
  | unordered hab hba heq heq' => exact .unordered hba hab heq' heq

/-- A number is compared as a number with whatever stands on the other side. -/
theorem compared_num (n : Number) (b : Value) : Compared (.num n) b := by
  cases b with
  | null | bool | num | str | arr | obj => exact .numbers rfl rfl rfl rfl

/-- A string has no order next to what is neither a string nor a number. -/
theorem compared_str (s : String) (b : Value) : Compared (.str s) b := by
  cases b with
  | num n => exact (compared_num n _).symm
  | str t => exact .strings s t
  | null | bool | arr | obj => exact .unordered (compareNumbers?_none (.str s) rfl) rfl rfl rfl

/-- Two values can always be compared, if only to find that they have no order. -/
theorem compared (a b : Value) : Compared a b := by
  cases a with
  | num n => exact compared_num n b
  | str s => exact compared_str s b
  | bool x =>
    cases b with
    | num n => exact (compared_num n _).symm
    | str t => exact (compared_str t _).symm
    | bool y => exact .truths x y
    | null | arr | obj => exact .unordered rfl rfl rfl rfl
  | null | arr | obj =>
    cases b with
    | num n => exact (compared_num n _).symm
    | str t => exact (compared_str t _).symm
    | null | bool | arr | obj => exact .unordered rfl rfl rfl rfl

/-- Items are equal in either order if each of them is. -/
theorem sameItems_comm {items : List Value}
    (h : ∀ item ∈ items, ∀ other : Value, item.same other = other.same item)
    (others : List Value) : sameItems items others = sameItems others items := by
  induction items generalizing others with
  | nil => cases others <;> rfl
  | cons item items ih =>
    cases others with
    | nil => rfl
    | cons other others =>
      rw [sameItems, sameItems, h item List.mem_cons_self other,
        ih (fun item hitem => h item (List.mem_cons_of_mem _ hitem)) others]

/-- Fields are equal in either order if the value of each of them is. -/
theorem sameFields_comm {fields : List (String × Value)}
    (h : ∀ field ∈ fields, ∀ other : Value, field.2.same other = other.same field.2)
    (others : List (String × Value)) : sameFields fields others = sameFields others fields := by
  induction fields generalizing others with
  | nil => cases others <;> rfl
  | cons field fields ih =>
    cases others with
    | nil => rfl
    | cons other others =>
      rw [sameFields, sameFields, h field List.mem_cons_self other.2, BEq.comm,
        ih (fun field hfield => h field (List.mem_cons_of_mem _ hfield)) others]

/-- Without floats the equality of values is symmetric. -/
theorem FloatFree.same_comm (h : a.FloatFree) (b : Value) : a.same b = b.same a := by
  induction h generalizing b with
  | null =>
    cases b with
    | num n => cases n <;> rfl
    | null | bool | str | arr | obj => rfl
  | bool x =>
    cases b with
    | num n => cases n <;> rfl
    | bool y => exact BEq.comm
    | null | str | arr | obj => rfl
  | num =>
    cases b with
    | num n =>
      cases n with
      | int n => exact BEq.comm
      | float y => rfl
    | null | bool | str | arr | obj => rfl
  | str =>
    cases b with
    | num n => cases n <;> rfl
    | str t => exact BEq.comm
    | null | bool | arr | obj => rfl
  | arr _ ih =>
    cases b with
    | num n => cases n <;> rfl
    | arr others => exact sameItems_comm ih others
    | null | bool | str | obj => rfl
  | obj _ ih =>
    cases b with
    | num n => cases n <;> rfl
    | obj others => exact sameFields_comm ih others
    | null | bool | str | arr => rfl

/-- The order of two values turns around with them. -/
theorem compare?_swap (ha : a.FloatFree) (hb : b.FloatFree) :
    b.compare? a = (a.compare? b).map Ordering.swap := by
  cases compared a b with
  | strings s t => exact congrArg some Std.OrientedCmp.eq_swap
  | truths x y => exact congrArg some Std.OrientedCmp.eq_swap
  | numbers hab hba => rw [hab, hba, compareNumbers?_swap ha hb]
  | unordered hab hba => rw [hab, hba, Option.map_none]

/-- Values that have an order are equal exactly where it says so. -/
theorem equals_eq {order : Ordering} (h : a.compare? b = some order) :
    a.equals b = (order == .eq) := by
  cases compared a b with
  | strings s t =>
    cases h
    exact Std.compare_beq_eq_beq.symm
  | truths x y =>
    cases h
    exact Std.compare_beq_eq_beq.symm
  | numbers hab hba heq =>
    rw [heq, coerced_eq, ← hab, h]
    rfl
  | unordered hab => cases hab.symm.trans h

/-- Without floats equality with coercion is symmetric, also between values that have no order. -/
theorem equals_comm (ha : a.FloatFree) (hb : b.FloatFree) : a.equals b = b.equals a := by
  cases compared a b with
  | strings s t => exact BEq.comm
  | truths x y => exact BEq.comm
  | numbers hab hba heq heq' =>
    rw [heq, heq', coerced_eq, coerced_eq, compareNumbers?_swap ha hb]
    cases a.compareNumbers? b with
    | none => rfl
    | some order => cases order <;> rfl
  | unordered hab hba heq heq' => rw [heq, heq', ha.same_comm]

end Value

namespace Expr

variable {a b : Value}

/-- The operators that ask for an order. -/
def BinaryOp.IsOrdering (op : BinaryOp) : Prop := op ∈ [lt, le, gt, ge]

instance (op : BinaryOp) : Decidable op.IsOrdering :=
  inferInstanceAs (Decidable (op ∈ [.lt, .le, .gt, .ge]))

/-- A comparison asks whether the order of two values is one of those it holds for. -/
theorem apply_ordering {op : BinaryOp} (hop : op.IsOrdering) (a b : Value) :
    apply op a b =
      match a.compare? b with
      | some order => .ok (.bool (holds op order))
      | none => .error (.notComparable a b) := by
  simp only [BinaryOp.IsOrdering, List.mem_cons, List.not_mem_nil, or_false] at hop
  rcases hop with rfl | rfl | rfl | rfl
  all_goals rfl

/-- Equality and order of two values as one answer: one of three truth values is true, and every
comparison is made of them, also after the operands have changed places. -/
structure Agrees (a b : Value) (less equal greater : Bool) : Prop where
  one : [less, equal, greater].count true = 1
  lt : apply .lt a b = .ok (.bool less)
  eq : apply .eq a b = .ok (.bool equal)
  gt : apply .gt a b = .ok (.bool greater)
  le : apply .le a b = .ok (.bool (less || equal))
  ge : apply .ge a b = .ok (.bool (greater || equal))
  ne : apply .ne a b = .ok (.bool (!equal))
  lt_swap : apply .lt b a = .ok (.bool greater)
  gt_swap : apply .gt b a = .ok (.bool less)
  eq_swap : apply .eq b a = .ok (.bool equal)

/-- Values without an order have none in either place, and their equality is symmetric. -/
structure Unordered (a b : Value) : Prop where
  ordering : ∀ op : BinaryOp, op.IsOrdering → apply op a b = .error (.notComparable a b)
  ordering_swap : ∀ op : BinaryOp, op.IsOrdering → apply op b a = .error (.notComparable b a)
  eq : ∃ equal, apply .eq a b = .ok (.bool equal) ∧ apply .eq b a = .ok (.bool equal)

/-- Values with an order agree on all comparisons. -/
theorem agrees_of_compare? (ha : a.FloatFree) (hb : b.FloatFree) {order : Ordering}
    (h : a.compare? b = some order) :
    Agrees a b (order == .lt) (order == .eq) (order == .gt) := by
  have hswap : b.compare? a = some order.swap := by
    rw [Value.compare?_swap ha hb, h, Option.map_some]
  have happly : ∀ op : BinaryOp, op.IsOrdering → apply op a b = .ok (.bool (holds op order)) :=
    fun op hop => by rw [apply_ordering hop, h]
  have hback : ∀ op : BinaryOp, op.IsOrdering → apply op b a = .ok (.bool (holds op order.swap)) :=
    fun op hop => by rw [apply_ordering hop, hswap]
  have hequal : a.equals b = (order == .eq) := Value.equals_eq h
  refine ⟨?_, ?_, ?_, ?_, ?_, ?_, ?_, ?_, ?_, ?_⟩
  · cases order <;> rfl
  · rw [happly .lt (by decide)]; rfl
  · rw [apply, hequal]
  · rw [happly .gt (by decide)]; rfl
  · rw [happly .le (by decide)]; cases order <;> rfl
  · rw [happly .ge (by decide)]; cases order <;> rfl
  · rw [apply, hequal]
  · rw [hback .lt (by decide)]; cases order <;> rfl
  · rw [hback .gt (by decide)]; cases order <;> rfl
  · rw [apply, ← Value.equals_comm ha hb, hequal]

/-- Values without an order are unordered in both places. -/
theorem unordered_of_compare? (ha : a.FloatFree) (hb : b.FloatFree) (h : a.compare? b = none) :
    Unordered a b := by
  have hswap : b.compare? a = none := by rw [Value.compare?_swap ha hb, h, Option.map_none]
  refine ⟨fun op hop => ?_, fun op hop => ?_, a.equals b, rfl, ?_⟩
  · rw [apply_ordering hop, h]
  · rw [apply_ordering hop, hswap]
  · rw [apply, ← Value.equals_comm ha hb]

/-- Equality and order agree on values without floats. If one comparison by order succeeds all of
them do, exactly one of less, equal and greater is true, and the other comparisons are made of these
three. If one fails all of them do, in either place, and equality is still symmetric. -/
theorem comparisons_agree (ha : a.FloatFree) (hb : b.FloatFree) :
    ((∃ op : BinaryOp, op.IsOrdering ∧ (apply op a b).isOk = true) →
      ∃ less equal greater, Agrees a b less equal greater) ∧
    ((∃ op : BinaryOp, op.IsOrdering ∧ (apply op a b).isOk = false) → Unordered a b) := by
  cases h : a.compare? b with
  | some order =>
    refine ⟨fun _ => ⟨_, _, _, agrees_of_compare? ha hb h⟩, fun ⟨op, hop, hfault⟩ => ?_⟩
    rw [apply_ordering hop, h] at hfault
    cases hfault
  | none =>
    refine ⟨fun ⟨op, hop, hresult⟩ => ?_, fun _ => unordered_of_compare? ha hb h⟩
    rw [apply_ordering hop, h] at hresult
    cases hresult

/-- A string that reads as seven has an order next to a number, and a list has none next to
`null`. -/
theorem comparisons_agree_of_string :
    (∃ less equal greater, Agrees (.str " 7 ") (.ofInt 12) less equal greater) ∧
      Unordered (.arr [.str "seven", .bool true]) .null := by
  have hseven : Value.FloatFree (.str " 7 ") := .str fun _ => ⟨7, by decide, by decide⟩
  have htwelve : Value.FloatFree (.ofInt 12) := .num (by decide)
  have hword : Value.FloatFree (.str "seven") := .str fun h => absurd h (by decide)
  have hlist : Value.FloatFree (.arr [.str "seven", .bool true]) := by
    refine .arr (List.forall_mem_cons.mpr ⟨hword, fun item hitem => ?_⟩)
    rw [List.mem_singleton.mp hitem]
    exact .bool true
  exact ⟨(comparisons_agree hseven htwelve).1 ⟨.lt, by decide, by decide⟩,
    (comparisons_agree hlist .null).2 ⟨.lt, by decide, by decide⟩⟩

end Expr

end SqlTemplate
