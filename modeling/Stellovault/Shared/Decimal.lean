import Mathlib.Data.Int.Log
import Mathlib.Data.Rat.Floor
import Stellovault.Shared.Runtime

set_option autoImplicit false

/-!
# decimal.js and `DECIMAL(20,7)` columns
-/

namespace Stellovault

/-- Rounding to a multiple of `10 ^ (-scale)`, halves away from zero. -/
def roundHalfUp (scale : ℤ) (value : ℚ) : ℚ :=
  ((if 0 ≤ value then ⌊value * 10 ^ scale + 1 / 2⌋ else -⌊-(value * 10 ^ scale) + 1 / 2⌋ : ℤ) : ℚ) /
    10 ^ scale

/-- `Decimal.precision`, left at its default. -/
def decimalPrecision : ℕ := 20

/-- The rounding decimal.js applies to the result of an operation. -/
def toSignificant (precision : ℕ) (value : ℚ) : ℚ :=
  if value = 0 then 0 else roundHalfUp (precision - 1 - Int.log 10 |value|) value

/-- `Decimal.prototype.plus`. -/
def Decimal.plus (a b : ℚ) : ℚ := toSignificant decimalPrecision (a + b)

/-- `Decimal.prototype.minus`. -/
def Decimal.minus (a b : ℚ) : ℚ := toSignificant decimalPrecision (a - b)

/-- `Decimal.prototype.div`. -/
def Decimal.div (a b : ℚ) : ℚ := toSignificant decimalPrecision (a / b)

/-- A value written to a `DECIMAL(20,7)` column. -/
def decimalColumn (column : String) (value : ℚ) : Except StoreError ℚ :=
  if |roundHalfUp 7 value| < 10 ^ 13 then .ok (roundHalfUp 7 value)
  else .error (.numericOverflow column)

/-- `parsePositiveAmount` of the escrow service and `parsePositiveDecimal` of the loan service:
the number the value reads as, `none` when it is not finite, if it is positive. -/
def parsePositive (value : Option ℚ) (fieldName : String) : Except AppError ℚ :=
  match value with
  | some parsed => if parsed ≤ 0 then .error (.validationError (fieldName ++ " must be a positive number"))
      else .ok parsed
  | none => .error (.validationError (fieldName ++ " must be a positive number"))

theorem parsePositive_ok {value : Option ℚ} {fieldName : String} {parsed : ℚ} :
    parsePositive value fieldName = .ok parsed ↔ value = some parsed ∧ 0 < parsed := by
  unfold parsePositive
  split
  · split
    · next nonpositive => simpa using fun same => same ▸ nonpositive
    · next positive => simpa [eq_comm] using fun same => same ▸ not_le.mp positive
  · simp

/-- The value has at most `places` decimal places. -/
def OnGrid (places : ℕ) (value : ℚ) : Prop := ∃ n : ℤ, value = n / 10 ^ places

theorem floor_int_add_half (n : ℤ) : ⌊(n : ℚ) + 1 / 2⌋ = n := by
  rw [Int.floor_int_add, add_right_eq_self, Int.floor_eq_zero_iff]
  norm_num

theorem roundHalfUp_of_int {scale : ℤ} {value : ℚ} (n : ℤ) (exact : value * 10 ^ scale = n) :
    roundHalfUp scale value = value := by
  have scaled : value = n / 10 ^ scale := by
    rw [eq_div_iff (zpow_ne_zero _ (by norm_num)), exact]
  unfold roundHalfUp
  split
  · rw [exact, floor_int_add_half, ← scaled]
  · rw [exact, ← Int.cast_neg, floor_int_add_half, neg_neg, ← scaled]

theorem roundHalfUp_nonneg (scale : ℤ) {value : ℚ} (nonneg : 0 ≤ value) :
    0 ≤ roundHalfUp scale value := by
  have unit : (0 : ℚ) < 10 ^ scale := zpow_pos (by norm_num) scale
  unfold roundHalfUp
  rw [if_pos nonneg]
  exact div_nonneg (Int.cast_nonneg.mpr (Int.floor_nonneg.mpr
    (add_nonneg (mul_nonneg nonneg unit.le) (by norm_num)))) unit.le

theorem roundHalfUp_le {scale : ℤ} {value bound : ℚ} (nonneg : 0 ≤ value) (le : value ≤ bound)
    (n : ℤ) (grid : bound * 10 ^ scale = n) : roundHalfUp scale value ≤ bound := by
  have unit : (0 : ℚ) < 10 ^ scale := zpow_pos (by norm_num) scale
  unfold roundHalfUp
  rw [if_pos nonneg, div_le_iff₀ unit, grid]
  calc (⌊value * 10 ^ scale + 1 / 2⌋ : ℚ)
      ≤ ⌊(n : ℚ) + 1 / 2⌋ := by
        exact_mod_cast Int.floor_mono
          (by rw [← grid]; exact add_le_add_right (mul_le_mul_of_nonneg_right le unit.le) _)
    _ = n := by rw [floor_int_add_half]

theorem onGrid_roundHalfUp (places : ℕ) (value : ℚ) : OnGrid places (roundHalfUp places value) :=
  ⟨_, by rw [roundHalfUp, zpow_natCast]⟩

theorem OnGrid.add {places : ℕ} {a b : ℚ} : OnGrid places a → OnGrid places b →
    OnGrid places (a + b)
  | ⟨m, am⟩, ⟨n, bn⟩ => ⟨m + n, by rw [am, bn]; push_cast; ring⟩

theorem OnGrid.sub {places : ℕ} {a b : ℚ} : OnGrid places a → OnGrid places b →
    OnGrid places (a - b)
  | ⟨m, am⟩, ⟨n, bn⟩ => ⟨m - n, by rw [am, bn]; push_cast; ring⟩

theorem onGrid_zero (places : ℕ) : OnGrid places 0 := ⟨0, by simp⟩

theorem OnGrid.sum {places : ℕ} : ∀ {values : List ℚ}, (∀ value ∈ values, OnGrid places value) →
    OnGrid places values.sum
  | [], _ => onGrid_zero places
  | value :: rest, each => by
    rw [List.sum_cons]
    exact (each value (List.mem_cons_self _ _)).add (OnGrid.sum fun other member =>
      each other (List.mem_cons_of_mem _ member))

theorem roundHalfUp_le_of_onGrid {places : ℕ} {value bound : ℚ} (nonneg : 0 ≤ value)
    (le : value ≤ bound) (grid : OnGrid places bound) : roundHalfUp places value ≤ bound := by
  obtain ⟨n, rfl⟩ := grid
  exact roundHalfUp_le nonneg le n (by rw [zpow_natCast]; field_simp)

theorem roundHalfUp_of_onGrid {places : ℕ} {value : ℚ} (grid : OnGrid places value) :
    roundHalfUp places value = value := by
  obtain ⟨n, rfl⟩ := grid
  exact roundHalfUp_of_int n (by rw [zpow_natCast]; field_simp)

theorem log_lt_of_abs_lt {value : ℚ} (nonzero : value ≠ 0) {digits : ℕ}
    (bound : |value| < 10 ^ digits) : Int.log 10 |value| < digits := by
  by_contra above
  have reached := (Int.zpow_le_iff_le_log (b := 10) (by norm_num)
    (abs_pos.mpr nonzero)).mpr (not_lt.mp above)
  norm_num [zpow_natCast] at reached
  linarith

theorem toSignificant_of_onGrid {precision places digits : ℕ} {value : ℚ}
    (grid : OnGrid places value) (bound : |value| < 10 ^ digits)
    (fits : digits + places ≤ precision) : toSignificant precision value = value := by
  unfold toSignificant
  split
  next zero => exact zero.symm
  next nonzero =>
    obtain ⟨n, rfl⟩ := grid
    have below := log_lt_of_abs_lt nonzero bound
    obtain ⟨extra, scale⟩ : ∃ extra : ℕ,
        (precision : ℤ) - 1 - Int.log 10 |(n : ℚ) / 10 ^ places| = places + extra :=
      ⟨((precision : ℤ) - 1 - Int.log 10 |(n : ℚ) / 10 ^ places| - places).toNat, by omega⟩
    refine roundHalfUp_of_int (n * 10 ^ extra) ?_
    rw [scale, zpow_add₀ (by norm_num), zpow_natCast, zpow_natCast]
    push_cast
    field_simp
    ring

theorem toSignificant_ne_zero {precision : ℕ} (positive : 0 < precision) {value : ℚ}
    (nonzero : value ≠ 0) : toSignificant precision value ≠ 0 := by
  have order : (10 : ℚ) ^ Int.log 10 |value| ≤ |value| := by
    exact_mod_cast Int.zpow_log_le_self (b := 10) (by norm_num) (abs_pos.mpr nonzero)
  have scale : (1 : ℚ) ≤ |value| * 10 ^ ((precision : ℤ) - 1 - Int.log 10 |value|) :=
    calc (1 : ℚ) ≤ 10 ^ ((precision : ℤ) - 1) := one_le_zpow₀ (by norm_num) (by omega)
      _ = 10 ^ Int.log 10 |value| * 10 ^ ((precision : ℤ) - 1 - Int.log 10 |value|) := by
        rw [← zpow_add₀ (by norm_num), add_sub_cancel]
      _ ≤ |value| * 10 ^ ((precision : ℤ) - 1 - Int.log 10 |value|) :=
        mul_le_mul_of_nonneg_right order (zpow_nonneg (by norm_num) _)
  unfold toSignificant roundHalfUp
  rw [if_neg nonzero]
  refine div_ne_zero (Int.cast_ne_zero.mpr ?_) (zpow_ne_zero _ (by norm_num))
  generalize (precision : ℤ) - 1 - Int.log 10 |value| = exponent at scale ⊢
  split
  next nonneg =>
    rw [abs_of_nonneg nonneg] at scale
    have rounded : (1 : ℤ) ≤ ⌊value * 10 ^ exponent + 1 / 2⌋ :=
      Int.le_floor.mpr (by rw [Int.cast_one]; exact le_add_of_le_of_nonneg scale (by norm_num))
    omega
  next negative =>
    rw [abs_of_neg (lt_of_not_le negative), neg_mul] at scale
    have rounded : (1 : ℤ) ≤ ⌊-(value * 10 ^ exponent) + 1 / 2⌋ :=
      Int.le_floor.mpr (by rw [Int.cast_one]; exact le_add_of_le_of_nonneg scale (by norm_num))
    omega

theorem decimalColumn_ok {column : String} {value stored : ℚ} :
    decimalColumn column value = .ok stored ↔ stored = roundHalfUp 7 value ∧ |stored| < 10 ^ 13 := by
  unfold decimalColumn
  split <;> simp_all [eq_comm]

theorem le_roundHalfUp {scale : ℤ} {value bound : ℚ} (nonneg : 0 ≤ bound) (le : bound ≤ value)
    (n : ℤ) (grid : bound * 10 ^ scale = n) : bound ≤ roundHalfUp scale value := by
  have unit : (0 : ℚ) < 10 ^ scale := zpow_pos (by norm_num) scale
  unfold roundHalfUp
  rw [if_pos (nonneg.trans le), le_div_iff₀ unit, grid]
  exact_mod_cast Int.le_floor.mpr
    (by rw [← grid]; exact le_add_of_le_of_nonneg (mul_le_mul_of_nonneg_right le unit.le) (by norm_num))

theorem roundHalfUp_lt_iff {scale : ℤ} {value bound : ℚ} (nonneg : 0 ≤ value) (n : ℤ)
    (grid : bound * 10 ^ scale = n) :
    roundHalfUp scale value < bound ↔ value < bound - 1 / 2 / 10 ^ scale := by
  have unit : (0 : ℚ) < 10 ^ scale := zpow_pos (by norm_num) scale
  unfold roundHalfUp
  have shifted : (value + 1 / 2 / 10 ^ scale) * 10 ^ scale = value * 10 ^ scale + 1 / 2 := by
    rw [add_mul, div_mul_cancel₀ _ unit.ne']
  rw [if_pos nonneg, div_lt_iff₀ unit, grid, Int.cast_lt, Int.floor_lt, ← grid,
    lt_sub_iff_add_lt, ← shifted]
  exact mul_lt_mul_right unit

theorem toSignificant_of_ne_zero {precision : ℕ} {value : ℚ} (nonzero : value ≠ 0) :
    toSignificant precision value = roundHalfUp (precision - 1 - Int.log 10 |value|) value := by
  rw [toSignificant, if_neg nonzero]

theorem zpow_log_le_toSignificant {precision : ℕ} (some : 0 < precision) {value : ℚ}
    (positive : 0 < value) : (10 : ℚ) ^ Int.log 10 value ≤ toSignificant precision value := by
  rw [toSignificant_of_ne_zero positive.ne', abs_of_pos positive]
  refine le_roundHalfUp (zpow_nonneg (by norm_num) _) ?_ (10 ^ (precision - 1)) ?_
  · exact_mod_cast Int.zpow_log_le_self (b := 10) (by norm_num) positive
  · push_cast
    rw [← zpow_add₀ (by norm_num), ← zpow_natCast]
    congr 1
    omega

theorem roundHalfUp_le_one {scale : ℤ} (nonneg : 0 ≤ scale) {value : ℚ} (lower : 0 ≤ value)
    (upper : value ≤ 1) : roundHalfUp scale value ≤ 1 := by
  refine roundHalfUp_le lower upper (10 ^ scale.toNat) ?_
  push_cast
  rw [one_mul, ← zpow_natCast, Int.toNat_of_nonneg nonneg]

end Stellovault
