import AmqpClient.Field

/-! Field values compared as values. A value that holds what is not a number equals nothing, itself not included;
any other equals itself. -/
namespace AmqpClient

def IsFloat (bits : UInt32) : Prop := bits.toNat % 0x80000000 ≤ 0x7F800000

def IsDouble (bits : UInt64) : Prop := bits.toNat % 0x8000000000000000 ≤ 0x7FF0000000000000

mutual
def FieldValue.Numeric : FieldValue → Prop
  | .float bits => IsFloat bits
  | .double bits => IsDouble bits
  | .array items => items.Numeric
  | .table entries => entries.Numeric
  | _ => True
def FieldArray.Numeric : FieldArray → Prop
  | .nil => True
  | .cons item rest => item.Numeric ∧ rest.Numeric
def FieldTable.Numeric : FieldTable → Prop
  | .nil => True
  | .cons _ value rest => value.Numeric ∧ rest.Numeric
end

theorem sameFloatNumeric {a b : UInt32} (same : sameFloat a b = true) : IsFloat b := by
  simp only [sameFloat, Bool.and_eq_true, decide_eq_true_eq] at same
  exact same.1.2

theorem sameDoubleNumeric {a b : UInt64} (same : sameDouble a b = true) : IsDouble b := by
  simp only [sameDouble, Bool.and_eq_true, decide_eq_true_eq] at same
  exact same.1.2

theorem sameFloatItself {bits : UInt32} (number : IsFloat bits) : sameFloat bits bits = true := by
  have size : bits.toNat % 0x80000000 ≤ 0x7F800000 := number
  simp only [sameFloat, size, decide_true, beq_self_eq_true, Bool.and_self, Bool.true_or]

theorem sameDoubleItself {bits : UInt64} (number : IsDouble bits) : sameDouble bits bits = true := by
  have size : bits.toNat % 0x8000000000000000 ≤ 0x7FF0000000000000 := number
  simp only [sameDouble, size, decide_true, beq_self_eq_true, Bool.and_self, Bool.true_or]

-- Whatever a value is found equal to, it is made of numbers.
mutual
theorem FieldValue.sameNumeric {a b : FieldValue} (same : a.same b = true) : b.Numeric := by
  cases b with
  | float bits =>
    cases a with
    | float _ => exact sameFloatNumeric same
    | _ => cases same
  | double bits =>
    cases a with
    | double _ => exact sameDoubleNumeric same
    | _ => cases same
  | array items =>
    cases a with
    | array _ => exact FieldArray.sameNumeric same
    | _ => cases same
  | table entries =>
    cases a with
    | table _ => exact FieldTable.sameNumeric same
    | _ => cases same
  | _ => trivial
theorem FieldArray.sameNumeric : {a b : FieldArray} → a.same b = true → b.Numeric
  | .nil, .nil, _ => trivial
  | .cons _ _, .cons _ _, same =>
    have both := Bool.and_eq_true_iff.mp same
    ⟨FieldValue.sameNumeric both.1, FieldArray.sameNumeric both.2⟩
theorem FieldTable.sameNumeric : {a b : FieldTable} → a.same b = true → b.Numeric
  | .nil, .nil, _ => trivial
  | .cons _ _ _, .cons _ _ _, same =>
    have both := Bool.and_eq_true_iff.mp same
    ⟨FieldValue.sameNumeric (Bool.and_eq_true_iff.mp both.1).2, FieldTable.sameNumeric both.2⟩
end

mutual
theorem FieldValue.sameItself {value : FieldValue} (numeric : value.Numeric) : value.same value = true := by
  cases value with
  | float bits => exact sameFloatItself numeric
  | double bits => exact sameDoubleItself numeric
  | array items => exact FieldArray.sameItself numeric
  | table entries => exact FieldTable.sameItself numeric
  | decimal scale digits => exact Bool.and_eq_true_iff.mpr ⟨beq_self_eq_true scale, beq_self_eq_true digits⟩
  | void => rfl
  | _ => exact beq_self_eq_true _
theorem FieldArray.sameItself {items : FieldArray} (numeric : items.Numeric) : items.same items = true := by
  cases items with
  | nil => rfl
  | cons item rest =>
    exact Bool.and_eq_true_iff.mpr ⟨FieldValue.sameItself numeric.1, FieldArray.sameItself numeric.2⟩
theorem FieldTable.sameItself {table : FieldTable} (numeric : table.Numeric) : table.same table = true := by
  cases table with
  | nil => rfl
  | cons key value rest =>
    have first := Bool.and_eq_true_iff.mpr ⟨beq_self_eq_true key, FieldValue.sameItself numeric.1⟩
    exact Bool.and_eq_true_iff.mpr ⟨first, FieldTable.sameItself numeric.2⟩
end

end AmqpClient
