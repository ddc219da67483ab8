import Baste.HalfAwayRounding

/-!
# Rounding half to even

The rounding rule of decimal arithmetic: to the nearest integer, and a tie
goes to the even one.  Two equivalences compare a rounded number with an
integer, and give that the rounding is monotone and at most one half away.
-/

variable {Number : Type*} [Field Number] [LinearOrder Number]
variable [IsStrictOrderedRing Number] [FloorRing Number]

section HalfEven

variable {x y : Number} {n : ℤ}

theorem le_roundHalfEven_iff :
    n ≤ roundHalfEven x ↔
      (n : Number) < x + 1 / 2 ∨ (n : Number) = x + 1 / 2 ∧ n % 2 = 0 := by
  have split := Int.floor_add_fract x
  have low := Int.fract_nonneg x
  have high := Int.fract_lt_one x
  have half : (0 : Number) < 1 / 2 := by norm_num
  have twoHalves : (1 : Number) / 2 + 1 / 2 = 1 := by norm_num
  unfold roundHalfEven
  split_ifs with down
  · constructor
    · intro below
      have casted : (n : Number) ≤ ⌊x⌋ := by exact_mod_cast below
      left
      linarith
    · intro close
      by_contra above
      have next : ⌊x⌋ + 1 ≤ n := by omega
      have casted : (⌊x⌋ : Number) + 1 ≤ n := by exact_mod_cast next
      rcases close with less | ⟨same, even⟩
      · rcases down with lower | ⟨tie, -⟩
        · linarith
        · linarith
      · rcases down with lower | ⟨tie, floorEven⟩
        · linarith
        · have isNext : (n : Number) = ⌊x⌋ + 1 := by linarith
          have castedNext : n = ⌊x⌋ + 1 := by exact_mod_cast isNext
          omega
  · rw [not_or, not_lt, not_and] at down
    obtain ⟨notLow, notEven⟩ := down
    constructor
    · intro below
      have casted : (n : Number) ≤ ⌊x⌋ + 1 := by exact_mod_cast below
      rcases lt_or_eq_of_le notLow with above | tie
      · left
        linarith
      · rcases lt_or_eq_of_le casted with less | isNext
        · have castedLess : n < ⌊x⌋ + 1 := by exact_mod_cast less
          have belowFloor : (n : Number) ≤ ⌊x⌋ := by
            exact_mod_cast Int.lt_add_one_iff.mp castedLess
          left
          linarith
        · have castedNext : n = ⌊x⌋ + 1 := by exact_mod_cast isNext
          have odd := notEven tie.symm
          right
          constructor
          · linarith
          · omega
    · intro close
      have atMost : (n : Number) ≤ x + 1 / 2 := by
        rcases close with less | ⟨same, -⟩
        · exact less.le
        · exact same.le
      have lessNext : (n : Number) < ⌊x⌋ + 2 := by linarith
      have castedLess : n < ⌊x⌋ + 2 := by exact_mod_cast lessNext
      omega

theorem roundHalfEven_le_iff :
    roundHalfEven x ≤ n ↔
      x < n + 1 / 2 ∨ x = n + 1 / 2 ∧ n % 2 = 0 := by
  have step : roundHalfEven x ≤ n ↔ ¬ n + 1 ≤ roundHalfEven x := by omega
  have casted : ((n + 1 : ℤ) : Number) = n + 1 := by push_cast; rfl
  have twoHalves : (1 : Number) / 2 + 1 / 2 = 1 := by norm_num
  rw [step, le_roundHalfEven_iff, casted, not_or, not_and, not_lt]
  constructor
  · rintro ⟨atMost, tie⟩
    rcases lt_or_eq_of_le atMost with less | same
    · left
      linarith
    · have odd := tie same.symm
      right
      constructor
      · linarith
      · omega
  · rintro (less | ⟨same, even⟩)
    · refine ⟨by linarith, fun equal => ?_⟩
      exact absurd less (by linarith)
    · exact ⟨by linarith, fun _ => by omega⟩

theorem roundHalfEven_mono (le : x ≤ y) :
    roundHalfEven x ≤ roundHalfEven y := by
  rw [le_roundHalfEven_iff]
  rcases le_roundHalfEven_iff.mp (le_refl (roundHalfEven x)) with
    less | ⟨same, even⟩
  · left
    linarith
  · rcases lt_or_eq_of_le le with less | equal
    · left
      linarith
    · right
      rw [← equal]
      exact ⟨same, even⟩

theorem abs_roundHalfEven_sub_le (x : Number) :
    |(roundHalfEven x : Number) - x| ≤ 1 / 2 := by
  have below := le_roundHalfEven_iff.mp (le_refl (roundHalfEven x))
  have above := roundHalfEven_le_iff.mp (le_refl (roundHalfEven x))
  rw [abs_le]
  constructor
  · rcases above with less | ⟨same, -⟩
    · linarith
    · linarith
  · rcases below with less | ⟨same, -⟩
    · linarith
    · linarith

end HalfEven
