import TypedTable.Operator
import TypedTable.Value

namespace TypedTable

theorem Comparison.holds_flip (op : Comparison) (order : Ordering) :
    op.flip.holds order = op.holds order.swap := by
  cases op <;> cases order <;> rfl

theorem swap_compare {α : Type} [Ord α] [Std.OrientedOrd α] (a b : α) :
    (some (compare a b)).map Ordering.swap = some (compare b a) :=
  congrArg some Std.OrientedCmp.eq_swap.symm

theorem Double.compare?_swap (x y : Double) : (x.compare? y).map Ordering.swap = y.compare? x := by
  unfold compare?
  rw [Bool.or_comm y.isNaN]
  split
  · rfl
  · exact swap_compare x.orderKey y.orderKey

theorem Instant.order_swap (t u : Instant) : (t.order u).swap = u.order t := by
  rw [order,Ordering.swap_then,← Std.OrientedCmp.eq_swap,← Std.OrientedCmp.eq_swap]
  rfl

namespace Value

-- Incomparable pairs are so in both directions. A number and a double compare
-- as doubles whichever of the two comes first.
theorem compare?_swap (a b : Value) : (a.compare? b).map Ordering.swap = b.compare? a := by
  cases a with
  | string text =>
    cases b with
    | string _ => exact swap_compare _ _
    | _ => rfl
  | int32 m =>
    cases b with
    | int32 n => exact swap_compare m.toInt n.toInt
    | int64 n => exact swap_compare m.toInt n.toInt
    | double y => exact Double.compare?_swap (.ofInt m.toInt) y
    | _ => rfl
  | int64 m =>
    cases b with
    | int32 n => exact swap_compare m.toInt n.toInt
    | int64 n => exact swap_compare m.toInt n.toInt
    | double y => exact Double.compare?_swap (.ofInt m.toInt) y
    | _ => rfl
  | double x =>
    cases b with
    | int32 n => exact Double.compare?_swap x (.ofInt n.toInt)
    | int64 n => exact Double.compare?_swap x (.ofInt n.toInt)
    | double y => exact Double.compare?_swap x y
    | _ => rfl
  | boolean p =>
    cases b with
    | boolean _ => exact swap_compare _ _
    | _ => rfl
  | binary bytes =>
    cases b with
    | binary _ => exact swap_compare _ _
    | _ => rfl
  | dateTime t =>
    cases b with
    | dateTime u => exact congrArg some (t.order_swap u)
    | _ => rfl
  | guid g =>
    cases b with
    | guid g' => exact swap_compare g.bytes g'.bytes
    | _ => rfl

theorem compare?_self {v : Value} (number : ∀ x, v = .double x → x.isNaN = false) :
    v.compare? v = some .eq := by
  have symmetric := compare?_swap v v
  obtain ⟨order,compared⟩ : ∃ order, v.compare? v = some order := by
    cases v with
    | double x => exact ⟨_,if_neg (by simp [number x rfl])⟩
    | _ => exact ⟨_,rfl⟩
  rw [compared] at symmetric ⊢
  cases order with
  | eq => rfl
  | lt | gt => cases symmetric

end Value
end TypedTable
