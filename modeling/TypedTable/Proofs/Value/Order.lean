import TypedTable.Proofs.Double.Number
import TypedTable.Proofs.Value

namespace TypedTable

instance : Std.TransCmp Instant.order :=
  inferInstanceAs (Std.TransCmp (compareLex (compareOn Instant.seconds) (compareOn Instant.nanos)))

instance : Std.TransCmp Guid.order := inferInstanceAs (Std.TransCmp (compareOn Guid.bytes))

namespace Value

-- The exact value of a number. NaN has none.
def number? : Value → Option (WithBot (WithTop ℚ))
  | .double x => if x.isNaN then none else some x.number
  | v => v.integer?.map fun n : Int => ((n : ℚ) : WithTop ℚ)

-- An integer that is not the double, but has it as its nearest one.
def RoundsTo (a b : Value) : Prop :=
  ∃ n x, a.integer? = some n ∧ b = .double x ∧ (Double.ofInt n).same x = true ∧ a.number? ≠ b.number?

-- A double that is the nearest one of two different integers.
def Blurs (d a b : Value) : Prop :=
  ∃ x m n, d = .double x ∧ a.integer? = some m ∧ b.integer? = some n ∧ m ≠ n ∧
    (Double.ofInt m).same x = true ∧ (Double.ofInt n).same x = true

def units? : Value → Option Int
  | .double x => if x.isNaN then none else some x.signedUnits
  | v => v.integer?.map (· * 2 ^ 1074)

theorem integer?_cases {v : Value} {n : Int} (integer : v.integer? = some n) :
    (∃ i : Int32, v = .int32 i ∧ n = i.toInt) ∨ ∃ i : Int64, v = .int64 i ∧ n = i.toInt := by
  cases v with
  | int32 i => exact .inl ⟨i,rfl,(Option.some.inj integer).symm⟩
  | int64 i => exact .inr ⟨i,rfl,(Option.some.inj integer).symm⟩
  | _ => cases integer

theorem natAbs_integer_le {v : Value} {n : Int} (integer : v.integer? = some n) : n.natAbs ≤ 2 ^ 64 := by
  rcases integer?_cases integer with ⟨i,_,rfl⟩ | ⟨i,_,rfl⟩
  · have low := i.le_toInt
    have high := i.toInt_lt
    omega
  · have low := i.le_toInt
    have high := i.toInt_lt
    omega

theorem units?_integer {v : Value} {n : Int} (integer : v.integer? = some n) : v.units? = some (n * 2 ^ 1074) := by
  rcases integer?_cases integer with ⟨i,rfl,rfl⟩ | ⟨i,rfl,rfl⟩ <;> rfl

theorem double?_integer {v : Value} {n : Int} (integer : v.integer? = some n) : v.double? = some (.ofInt n) := by
  rcases integer?_cases integer with ⟨i,rfl,rfl⟩ | ⟨i,rfl,rfl⟩ <;> rfl

theorem units?_double {x : Double} (number : x.isNaN = false) : (Value.double x).units? = some x.signedUnits :=
  if_neg (by rw [number]; exact Bool.false_ne_true)

-- What has units is an integer or a double that is not NaN.
theorem units?_cases {v : Value} {u : Int} (units : v.units? = some u) :
    (∃ n, v.integer? = some n ∧ u = n * 2 ^ 1074) ∨
      ∃ x, v = .double x ∧ x.isNaN = false ∧ u = x.signedUnits := by
  cases v with
  | double x =>
    refine .inr ⟨x,rfl,?_⟩
    cases number : x.isNaN with
    | true =>
      rw [units?,number] at units
      cases units
    | false =>
      rw [units?_double number] at units
      exact ⟨rfl,(Option.some.inj units).symm⟩
  | int32 n => exact .inl ⟨_,rfl,(Option.some.inj units).symm⟩
  | int64 n => exact .inl ⟨_,rfl,(Option.some.inj units).symm⟩
  | _ => cases units

theorem units?_exact {v : Value} {u : Int} (units : v.units? = some u) (integer : v.integer?.isSome = true) :
    ∃ n, v.integer? = some n ∧ u = n * 2 ^ 1074 := by
  rcases units?_cases units with found | ⟨x,rfl,_⟩
  · exact found
  · cases integer

theorem units?_float {v : Value} {u : Int} (units : v.units? = some u) (double : v.integer?.isSome = false) :
    ∃ x, v = .double x ∧ x.isNaN = false ∧ u = x.signedUnits := by
  rcases units?_cases units with ⟨n,found,_⟩ | found
  · rw [found] at double
    cases double
  · exact found

theorem units?_within {v : Value} {u : Int} (units : v.units? = some u) : u.natAbs ≤ Double.infiniteUnits := by
  rcases units?_cases units with ⟨n,integer,rfl⟩ | ⟨x,_,number,rfl⟩
  · exact Nat.le_of_lt (Double.natAbs_integer_lt (natAbs_integer_le integer))
  · exact Double.natAbs_signedUnits_le number

theorem number?_eq (v : Value) : v.number? = v.units?.map Double.ofUnits := by
  have integer {n : Int} {v : Value} (integer : v.integer? = some n) :
      some (((n : ℚ) : WithTop ℚ) : WithBot (WithTop ℚ)) = v.units?.map Double.ofUnits := by
    rw [units?_integer integer,Option.map_some,Double.ofUnits_integer (natAbs_integer_le integer)]
  cases v with
  | double x =>
    change (if x.isNaN then none else some x.number) =
      Option.map Double.ofUnits (if x.isNaN then none else some x.signedUnits)
    cases number : x.isNaN with
    | true => rfl
    | false => exact congrArg some (Double.number_eq number)
  | int32 n => exact integer (v := .int32 n) rfl
  | int64 n => exact integer (v := .int64 n) rfl
  | _ => rfl

-- As a double, each number has the key of its exact value.
theorem exists_double {v : Value} {u : Int} (units : v.units? = some u) :
    ∃ x, v.double? = some x ∧ x.isNaN = false ∧ x.orderKey = Double.roundKey u := by
  rcases units?_cases units with ⟨n,integer,rfl⟩ | ⟨x,rfl,number,rfl⟩
  · exact ⟨.ofInt n,double?_integer integer,Double.ofInt_number n,Double.orderKey_ofInt n⟩
  · exact ⟨x,rfl,number,Double.orderKey_eq number⟩

theorem compare?_integers {a b : Value} {m n : Int} (first : a.integer? = some m) (second : b.integer? = some n) :
    a.compare? b = some (compare m n) := by
  rcases integer?_cases first with ⟨i,rfl,rfl⟩ | ⟨i,rfl,rfl⟩ <;>
    rcases integer?_cases second with ⟨j,rfl,rfl⟩ | ⟨j,rfl,rfl⟩ <;> rfl

theorem compare?_double (x : Double) {b : Value} {y : Double} (second : b.double? = some y) :
    (Value.double x).compare? b = x.compare? y := by
  change b.double?.bind x.compare? = _
  rw [second,Option.bind_some]

theorem compare?_integer_double {a : Value} {n : Int} (integer : a.integer? = some n) (y : Double) :
    a.compare? (.double y) = (Double.ofInt n).compare? y := by
  rcases integer?_cases integer with ⟨i,rfl,rfl⟩ | ⟨i,rfl,rfl⟩ <;> rfl

-- Two integers compare by their exact values, all other numbers by the doubles
-- nearest to them.
theorem compare?_units {a b : Value} {u v : Int} (first : a.units? = some u) (second : b.units? = some v) :
    a.compare? b = some (if a.integer?.isSome && b.integer?.isSome then compare u v
      else compare (Double.roundKey u) (Double.roundKey v)) := by
  obtain ⟨x,left,number,key⟩ := exists_double first
  obtain ⟨y,right,number',key'⟩ := exists_double second
  have rounded : x.compare? y = some (compare (Double.roundKey u) (Double.roundKey v)) := by
    rw [Double.compare?,number,number',key,key']
    rfl
  rcases units?_cases first with ⟨m,integer,rfl⟩ | ⟨_,rfl,_⟩
  · rcases units?_cases second with ⟨n,integer',rfl⟩ | ⟨_,rfl,_⟩
    · have scaled (k : Nat) : compare (m * 2 ^ k) (n * 2 ^ k) = compare m n := by
        have strict : StrictMono fun n : Int => n * 2 ^ k :=
          fun _ _ less => Int.mul_lt_mul_of_pos_right less (Int.pow_pos (by decide))
        have same := strict.cmp_map_eq m n
        rwa [cmp_eq_compare,cmp_eq_compare] at same
      rw [compare?_integers integer integer',integer,integer']
      exact congrArg some (scaled 1074).symm
    · cases right
      have converted := (double?_integer integer).symm.trans left
      rw [compare?_integer_double integer,Option.some.inj converted,rounded,integer]
      rfl
  · cases left
    rw [compare?_double x right,rounded]
    rfl

theorem number?_units {v : Value} {p : WithBot (WithTop ℚ)} (number : v.number? = some p) :
    ∃ u, v.units? = some u ∧ p = Double.ofUnits u := by
  rw [number?_eq] at number
  obtain ⟨u,units,rfl⟩ := Option.map_eq_some_iff.mp number
  exact ⟨u,units,rfl⟩

theorem number?_eq_iff {a b : Value} {u v : Int} (first : a.units? = some u) (second : b.units? = some v) :
    a.number? = b.number? ↔ u = v := by
  rw [number?_eq,number?_eq,first,second,Option.map_some,Option.map_some,Option.some_inj,
    Double.ofUnits_inj (units?_within first) (units?_within second)]

theorem roundsTo_iff {a b : Value} {u v : Int} (first : a.units? = some u) (second : b.units? = some v) :
    a.RoundsTo b ↔ a.integer?.isSome = true ∧ b.integer?.isSome = false ∧
      Double.roundKey u = Double.roundKey v ∧ u ≠ v := by
  constructor
  · rintro ⟨n,x,integer,rfl,same,differ⟩
    have number := Double.number_of_same same
    rw [units?_integer integer] at first
    rw [units?_double number] at second
    cases first
    cases second
    refine ⟨by rw [integer]; rfl,rfl,(Double.same_ofInt_iff number).mp same,?_⟩
    intro equal
    exact differ ((number?_eq_iff (units?_integer integer) (units?_double number)).mpr equal)
  · rintro ⟨integer,double,keys,differ⟩
    obtain ⟨n,found,rfl⟩ := units?_exact first integer
    obtain ⟨x,rfl,number,rfl⟩ := units?_float second double
    exact ⟨n,x,found,rfl,(Double.same_ofInt_iff number).mpr keys,
      fun equal => differ ((number?_eq_iff first second).mp equal)⟩

theorem blurs_iff {d a b : Value} {w u v : Int} (units : d.units? = some w) (first : a.units? = some u)
    (second : b.units? = some v) :
    d.Blurs a b ↔ d.integer?.isSome = false ∧ a.integer?.isSome = true ∧ b.integer?.isSome = true ∧ u ≠ v ∧
      Double.roundKey u = Double.roundKey w ∧ Double.roundKey v = Double.roundKey w := by
  constructor
  · rintro ⟨x,m,n,rfl,integer,integer',differ,same,same'⟩
    have number := Double.number_of_same same
    rw [units?_double number] at units
    rw [units?_integer integer] at first
    rw [units?_integer integer'] at second
    cases units
    cases first
    cases second
    exact ⟨rfl,by rw [integer]; rfl,by rw [integer']; rfl,(not_congr (Double.mul_two_pow_inj 1074)).mpr differ,
      (Double.same_ofInt_iff number).mp same,(Double.same_ofInt_iff number).mp same'⟩
  · rintro ⟨double,integer,integer',differ,keys,keys'⟩
    obtain ⟨x,rfl,number,rfl⟩ := units?_float units double
    obtain ⟨m,found,rfl⟩ := units?_exact first integer
    obtain ⟨n,found',rfl⟩ := units?_exact second integer'
    exact ⟨x,m,n,rfl,found,found',(not_congr (Double.mul_two_pow_inj 1074)).mp differ,
      (Double.same_ofInt_iff number).mpr keys,(Double.same_ofInt_iff number).mpr keys'⟩

theorem units_eq_of_keys {a b : Value} {u v : Int} (first : a.units? = some u) (second : b.units? = some v)
    (double : a.integer?.isSome = false) (double' : b.integer?.isSome = false)
    (keys : Double.roundKey u = Double.roundKey v) : u = v := by
  obtain ⟨x,rfl,number,rfl⟩ := units?_float first double
  obtain ⟨y,rfl,number',rfl⟩ := units?_float second double'
  rw [← Double.orderKey_eq number,← Double.orderKey_eq number'] at keys
  exact Double.signedUnits_inj keys

-- Numbers compare by their exact values, but an integer that a double is
-- compared with is rounded before.
theorem compare?_number {a b : Value} {p q : WithBot (WithTop ℚ)} (first : a.number? = some p)
    (second : b.number? = some q) :
    (a.RoundsTo b ∨ b.RoundsTo a → a.compare? b = some .eq ∧ p ≠ q) ∧
      (¬(a.RoundsTo b ∨ b.RoundsTo a) → a.compare? b = some (cmp p q)) := by
  obtain ⟨u,units,rfl⟩ := number?_units first
  obtain ⟨v,units',rfl⟩ := number?_units second
  rw [roundsTo_iff units units',roundsTo_iff units' units,compare?_units units units',
    Double.cmp_ofUnits (units?_within units) (units?_within units')]
  have unequal : Double.ofUnits u ≠ Double.ofUnits v ↔ u ≠ v :=
    not_congr (Double.ofUnits_inj (units?_within units) (units?_within units'))
  by_cases integers : a.integer?.isSome && b.integer?.isSome
  · obtain ⟨left,right⟩ := Bool.and_eq_true_iff.mp integers
    rw [if_pos integers,left,right]
    refine ⟨?_,fun _ => rfl⟩
    rintro (⟨_,double,_⟩ | ⟨_,double,_⟩) <;> cases double
  · rw [if_neg integers]
    by_cases keys : Double.roundKey u = Double.roundKey v
    · rw [compare_eq_iff_eq.mpr keys,unequal]
      constructor
      · rintro (⟨_,_,_,differ⟩ | ⟨_,_,_,differ⟩)
        · exact ⟨rfl,differ⟩
        · exact ⟨rfl,differ.symm⟩
      · intro unrounded
        have same : u = v := by
          by_contra differ
          cases left : a.integer?.isSome <;> cases right : b.integer?.isSome
          · exact differ (units_eq_of_keys units units' left right keys)
          · exact unrounded (.inr ⟨right,left,keys.symm,fun same => differ same.symm⟩)
          · exact unrounded (.inl ⟨left,right,keys,differ⟩)
          · exact integers (by rw [left,right]; rfl)
        rw [compare_eq_iff_eq.mpr same]
    · rw [Double.compare_roundKey keys]
      refine ⟨?_,fun _ => rfl⟩
      rintro (⟨_,_,same,_⟩ | ⟨_,_,same,_⟩)
      · exact absurd same keys
      · exact absurd same.symm keys

-- Three numbers are out of order exactly if two of them are different integers
-- and the third one a double that both round to.
theorem compare?_then_number {a b c : Value} {u v w : Int} {o o' : Ordering} (units : a.units? = some u)
    (units' : b.units? = some v) (units'' : c.units? = some w) (first : a.compare? b = some o)
    (second : b.compare? c = some o') (le : o ≠ .gt) (le' : o' ≠ .gt) :
    a.compare? c = some (o.then o') ↔ ¬(a.Blurs b c ∨ b.Blurs a c ∨ c.Blurs a b) := by
  rw [blurs_iff units units' units'',blurs_iff units' units units'',blurs_iff units'' units units',
    compare?_units units units'',Option.some.injEq]
  rw [compare?_units units units',Option.some.injEq] at first
  rw [compare?_units units' units'',Option.some.injEq] at second
  cases integer : a.integer?.isSome <;> cases integer' : b.integer?.isSome <;>
    cases integer'' : c.integer?.isSome <;>
    simp only [integer,integer',integer'',Bool.and_self,Bool.and_true,Bool.and_false,if_true,Bool.false_eq_true,
      Bool.true_eq_false,if_false,true_and,false_and,and_false,false_or,or_false,not_false_eq_true,
      iff_true] at first second ⊢
  · exact compare_then first second le le'
  · exact compare_then first second le le'
  · exact compare_then first second le le'
  · exact Double.rounded_first first second le le'
  · exact compare_then first second le le'
  · exact Double.rounded_middle first second le le'
  · exact Double.rounded_last first second le le'
  · exact compare_then first second le le'

theorem compare?_double_some {x : Double} {b : Value} {o : Ordering}
    (compared : (Value.double x).compare? b = some o) : ∃ y, b.double? = some y ∧ x.compare? y = some o :=
  Option.bind_eq_some_iff.mp compared

-- A number is comparable with numbers only.
theorem units?_of_compare? {a b : Value} {u : Int} {o : Ordering} (units : a.units? = some u)
    (compared : a.compare? b = some o) : ∃ v, b.units? = some v := by
  cases b with
  | int32 j => exact ⟨_,rfl⟩
  | int64 j => exact ⟨_,rfl⟩
  | double y =>
    rw [← compare?_swap] at compared
    obtain ⟨o',swapped,_⟩ := Option.map_eq_some_iff.mp compared
    obtain ⟨x,_,numbers⟩ := compare?_double_some swapped
    exact ⟨_,units?_double (Double.number_of_compare? numbers).1⟩
  | _ =>
    rcases units?_cases units with ⟨n,integer,_⟩ | ⟨x,rfl,_⟩
    · rcases integer?_cases integer with ⟨i,rfl,_⟩ | ⟨i,rfl,_⟩ <;> cases compared
    · cases compared

-- The values of one kind that are comparable among themselves only.
theorem compare?_then_kind {α : Type} {order : α → α → Ordering} [Std.TransCmp order] (wrap : α → Value)
    (own : ∀ x y, (wrap x).compare? (wrap y) = some (order x y))
    (only : ∀ x b o, (wrap x).compare? b = some o → ∃ y, b = wrap y) {x : α} {b c : Value} {o o' : Ordering}
    (first : (wrap x).compare? b = some o) (second : b.compare? c = some o') (le : o ≠ .gt) (le' : o' ≠ .gt) :
    (wrap x).compare? c = some (o.then o') := by
  obtain ⟨y,rfl⟩ := only _ _ _ first
  obtain ⟨z,rfl⟩ := only _ _ _ second
  rw [own,Option.some.injEq] at first second
  rw [own,compare_then first second le le']

theorem compare?_then_plain {a b c : Value} {o o' : Ordering} (plain : a.units? = none)
    (first : a.compare? b = some o) (second : b.compare? c = some o') (le : o ≠ .gt) (le' : o' ≠ .gt) :
    a.compare? c = some (o.then o') := by
  cases a with
  | string x =>
    refine compare?_then_kind .string (fun _ _ => rfl) ?_ first second le le'
    intro x b o compared
    cases b with
    | string y => exact ⟨y,rfl⟩
    | _ => cases compared
  | boolean x =>
    refine compare?_then_kind .boolean (fun _ _ => rfl) ?_ first second le le'
    intro x b o compared
    cases b with
    | boolean y => exact ⟨y,rfl⟩
    | _ => cases compared
  | binary x =>
    refine compare?_then_kind .binary (fun _ _ => rfl) ?_ first second le le'
    intro x b o compared
    cases b with
    | binary y => exact ⟨y,rfl⟩
    | _ => cases compared
  | dateTime x =>
    refine compare?_then_kind .dateTime (fun _ _ => rfl) ?_ first second le le'
    intro x b o compared
    cases b with
    | dateTime y => exact ⟨y,rfl⟩
    | _ => cases compared
  | guid x =>
    refine compare?_then_kind .guid (fun _ _ => rfl) ?_ first second le le'
    intro x b o compared
    cases b with
    | guid y => exact ⟨y,rfl⟩
    | _ => cases compared
  | int32 n => cases plain
  | int64 n => cases plain
  | double x =>
    obtain ⟨y,_,numbers⟩ := compare?_double_some first
    rw [units?_double (Double.number_of_compare? numbers).1] at plain
    cases plain

theorem not_blurs_of_plain {a b c : Value} (plain : a.units? = none) :
    ¬(a.Blurs b c ∨ b.Blurs a c ∨ c.Blurs a b) := by
  rintro (⟨x,_,_,rfl,_,_,_,same,_⟩ | ⟨_,_,_,_,integer,_⟩ | ⟨_,_,_,_,integer,_⟩)
  · rw [units?_double (Double.number_of_same same)] at plain
    cases plain
  · rw [units?_integer integer] at plain
    cases plain
  · rw [units?_integer integer] at plain
    cases plain

-- Values are in order but for integers that become one in a double between.
theorem compare?_then_iff {a b c : Value} {o o' : Ordering} (first : a.compare? b = some o)
    (second : b.compare? c = some o') (le : o ≠ .gt) (le' : o' ≠ .gt) :
    a.compare? c = some (o.then o') ↔ ¬(a.Blurs b c ∨ b.Blurs a c ∨ c.Blurs a b) := by
  cases units : a.units? with
  | none => exact iff_of_true (compare?_then_plain units first second le le') (not_blurs_of_plain units)
  | some u =>
    obtain ⟨v,units'⟩ := units?_of_compare? units first
    obtain ⟨w,units''⟩ := units?_of_compare? units' second
    exact compare?_then_number units units' units'' first second le le'

theorem Blurs.roundsTo {d a b : Value} (blurred : d.Blurs a b) : a.RoundsTo d ∨ b.RoundsTo d := by
  obtain ⟨x,m,n,rfl,integer,integer',differ,same,same'⟩ := blurred
  have apart : a.number? ≠ b.number? := by
    intro equal
    have units := (number?_eq_iff (units?_integer integer) (units?_integer integer')).mp equal
    exact differ ((Double.mul_two_pow_inj 1074).mp units)
  by_cases exactly : a.number? = (Value.double x).number?
  · exact .inr ⟨n,x,integer',rfl,same',fun equal => apart (exactly.trans equal.symm)⟩
  · exact .inl ⟨m,x,integer,rfl,same,exactly⟩

-- Integers of up to 53 bits are doubles.
theorem RoundsTo.large {a b : Value} (rounded : a.RoundsTo b) :
    ∃ n : Int64, a = .int64 n ∧ 2 ^ 53 < n.toInt.natAbs := by
  obtain ⟨n,x,integer,rfl,same,differ⟩ := rounded
  have number := Double.number_of_same same
  have long : 2 ^ 53 < n.natAbs := by
    by_contra short
    have keys := (Double.same_iff (Double.ofInt_number n) number).mp same
    have units := Double.signedUnits_inj keys
    rw [Double.signedUnits_ofInt (Nat.not_lt.mp short)] at units
    exact differ ((number?_eq_iff (units?_integer integer) (units?_double number)).mpr units)
  rcases integer?_cases integer with ⟨i,rfl,rfl⟩ | ⟨i,rfl,rfl⟩
  · have low := i.le_toInt
    have high := i.toInt_lt
    omega
  · exact ⟨i,rfl,long⟩

-- The comparison is the order of the exact values, and an order at all, but for
-- an integer that meets its nearest double without being it. Only an Int64
-- beyond 2^53 can.
theorem comparison_consistent (a b c : Value) :
    (∀ p q, a.number? = some p → b.number? = some q →
      (a.RoundsTo b ∨ b.RoundsTo a → a.compare? b = some .eq ∧ p ≠ q) ∧
        (¬(a.RoundsTo b ∨ b.RoundsTo a) → a.compare? b = some (cmp p q))) ∧
    (∀ o o', a.compare? b = some o → b.compare? c = some o' → o ≠ .gt → o' ≠ .gt →
      (a.compare? c = some (o.then o') ↔ ¬(a.Blurs b c ∨ b.Blurs a c ∨ c.Blurs a b))) ∧
    (c.Blurs a b → a.RoundsTo c ∨ b.RoundsTo c) ∧
    (a.RoundsTo b → ∃ n : Int64, a = .int64 n ∧ 2 ^ 53 < n.toInt.natAbs) :=
  ⟨fun _ _ => compare?_number,fun _ _ => compare?_then_iff,Blurs.roundsTo,RoundsTo.large⟩

theorem comparison_not_transitive :
    (Value.int64 9007199254740993).compare? (.double ⟨0x4340000000000000⟩) = some .eq ∧
      (Value.double ⟨0x4340000000000000⟩).compare? (.int64 9007199254740992) = some .eq ∧
      (Value.int64 9007199254740993).compare? (.int64 9007199254740992) = some .gt := by
  decide +kernel

end Value
end TypedTable
