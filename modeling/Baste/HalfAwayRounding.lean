import Mathlib.Algebra.Order.Round
import Mathlib.Tactic.Linarith

/-!
# Rounding half away from zero

The rounding rule of fixed-point columns: to the nearest integer, and a tie
goes to the integer farther from zero.  Adding an integer commutes with this
rounding except at a tie where the sum lies on the other side of zero, and the
file states exactly when.
-/

variable {Number : Type*} [Field Number] [LinearOrder Number]
variable [IsStrictOrderedRing Number] [FloorRing Number]

/-- Rounding to the nearest integer, ties away from zero. -/
def roundHalfAway (x : Number) : ℤ :=
  if 0 ≤ x then round x else -round (-x)

/-- Rounding to the nearest integer, ties to the even one. -/
def roundHalfEven (x : Number) : ℤ :=
  if Int.fract x < 1 / 2 ∨ Int.fract x = 1 / 2 ∧ ⌊x⌋ % 2 = 0 then ⌊x⌋
  else ⌊x⌋ + 1

/-- The number lies halfway between two integers. -/
def IsTie (x : Number) : Prop :=
  Int.fract x = 1 / 2

instance (x : Number) : Decidable (IsTie x) :=
  inferInstanceAs (Decidable (Int.fract x = 1 / 2))

theorem round_eq_floor_of_lt {x : Number} (low : Int.fract x < 1 / 2) :
    round x = ⌊x⌋ := by
  have := Int.fract_nonneg x
  have split := Int.floor_add_fract x
  rw [round_eq, Int.floor_eq_iff]
  constructor <;> linarith

theorem round_eq_floor_add_one_of_le {x : Number}
    (high : 1 / 2 ≤ Int.fract x) : round x = ⌊x⌋ + 1 := by
  have := Int.fract_lt_one x
  have split := Int.floor_add_fract x
  rw [round_eq, Int.floor_eq_iff]
  push_cast
  constructor <;> linarith

theorem neg_round_neg_of_le {x : Number} (low : Int.fract x ≤ 1 / 2) :
    -round (-x) = ⌊x⌋ := by
  have := Int.fract_nonneg x
  have split := Int.floor_add_fract x
  have rounded : round (-x) = -⌊x⌋ := by
    rw [round_eq, Int.floor_eq_iff]
    push_cast
    constructor <;> linarith
  rw [rounded, neg_neg]

theorem neg_round_neg_of_lt {x : Number} (high : 1 / 2 < Int.fract x) :
    -round (-x) = ⌊x⌋ + 1 := by
  have := Int.fract_lt_one x
  have split := Int.floor_add_fract x
  have rounded : round (-x) = -(⌊x⌋ + 1) := by
    rw [round_eq, Int.floor_eq_iff]
    push_cast
    constructor <;> linarith
  rw [rounded, neg_neg]

/-- Away from ties both signs round to the nearest integer. -/
theorem roundHalfAway_of_not_isTie {x : Number} (noTie : ¬ IsTie x) :
    roundHalfAway x = round x := by
  unfold roundHalfAway
  split_ifs with sign
  · rfl
  · rcases lt_or_gt_of_ne noTie with low | high
    · rw [neg_round_neg_of_le low.le, round_eq_floor_of_lt low]
    · rw [neg_round_neg_of_lt high, round_eq_floor_add_one_of_le high.le]

/-- A tie goes up when it is not negative and down when it is. -/
theorem roundHalfAway_of_isTie {x : Number} (tie : IsTie x) :
    roundHalfAway x = if 0 ≤ x then ⌊x⌋ + 1 else ⌊x⌋ := by
  unfold roundHalfAway
  split_ifs with sign
  · exact round_eq_floor_add_one_of_le tie.ge
  · exact neg_round_neg_of_le tie.le

@[simp]
theorem isTie_intCast_add {n : ℤ} {x : Number} :
    IsTie ((n : Number) + x) ↔ IsTie x := by
  simp [IsTie]

@[simp]
theorem roundHalfAway_intCast (n : ℤ) : roundHalfAway (n : Number) = n := by
  simp [roundHalfAway, ← Int.cast_neg]

theorem roundHalfAway_neg (x : Number) :
    roundHalfAway (-x) = -roundHalfAway x := by
  rcases lt_trichotomy x 0 with negative | rfl | positive
  · simp [roundHalfAway, negative.le, not_le.mpr negative]
  · simp [roundHalfAway]
  · simp [roundHalfAway, positive.le, not_le.mpr positive]

theorem roundHalfAway_nonneg {x : Number} (nonneg : 0 ≤ x) :
    0 ≤ roundHalfAway x := by
  rw [roundHalfAway, if_pos nonneg, round_eq]
  exact Int.floor_nonneg.mpr (by linarith)

theorem floor_le_roundHalfAway (x : Number) : ⌊x⌋ ≤ roundHalfAway x := by
  by_cases tie : IsTie x
  · rw [roundHalfAway_of_isTie tie]
    split_ifs
    · exact (lt_add_one _).le
    · exact le_rfl
  · rw [roundHalfAway_of_not_isTie tie, round_eq]
    exact Int.floor_mono (by linarith)

/-- The numbers that are rounded to at least a given integer, which is not
above zero, lie less than a half below it. -/
theorem le_roundHalfAway_iff {n : ℤ} (nonpos : n ≤ 0) {x : Number} :
    n ≤ roundHalfAway x ↔ (n : Number) - 1 / 2 < x := by
  have bound : (n : Number) ≤ 0 := by exact_mod_cast nonpos
  by_cases sign : 0 ≤ x
  · apply iff_of_true
    · exact nonpos.trans (roundHalfAway_nonneg sign)
    · linarith
  · rw [roundHalfAway, if_neg sign, round_eq, le_neg, Int.floor_le_iff]
    push_cast
    constructor <;> intro close <;> linarith

/-- Adding an integer before or after rounding is the same, except at a tie
that the addition moves across zero. -/
theorem roundHalfAway_intCast_add_iff (n : ℤ) (x : Number) :
    roundHalfAway ((n : Number) + x) = n + roundHalfAway x ↔
      (IsTie x → (0 ≤ (n : Number) + x ↔ 0 ≤ x)) := by
  by_cases tie : IsTie x
  · rw [roundHalfAway_of_isTie tie,
      roundHalfAway_of_isTie (isTie_intCast_add.mpr tie), Int.floor_intCast_add]
    simp only [tie, true_imp_iff]
    split_ifs with sumSign sign sign
    · simp [sumSign, sign, add_assoc]
    · simp only [sumSign, sign]
      constructor <;> intro impossible <;> [omega; simp at impossible]
    · simp only [sumSign, sign]
      constructor <;> intro impossible <;> [omega; simp at impossible]
    · simp [sumSign, sign]
  · rw [roundHalfAway_of_not_isTie tie,
      roundHalfAway_of_not_isTie (isTie_intCast_add.not.mpr tie),
      round_intCast_add]
    simp [tie]
