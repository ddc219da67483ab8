import Baste.HalfEvenRounding
import Baste.ShopRuns

/-!
# Discounted prices

A discount is rounded to a whole amount, and the settings of a reseller accept
every number as a percentage.  The laws of a discount hold exactly when it
leaves no more than half a unit to pay below zero, and when rounding up does
not lead above the price.
-/

namespace Baste

namespace ShopBot.CustomerOrders

/-- The price before it is rounded. -/
def exactDiscount (price : Cents) (row : DiscountCodeRow) : Rat :=
  decimal price * (100 - decimal row.percent) / 100

/-- The laws of a discount on a price, with a price that is at least as high
and a code that takes at least as much off. -/
structure DiscountsRight (price higher : Cents)
    (row stronger : DiscountCodeRow) : Prop where
  nonneg : 0 ≤ applyDiscount (decimal price) row
  le_price : (applyDiscount (decimal price) row : Rat) ≤ decimal price
  antitone : applyDiscount (decimal price) stronger ≤
    applyDiscount (decimal price) row
  monotone : applyDiscount (decimal price) row ≤
    applyDiscount (decimal higher) row
  close : |(applyDiscount (decimal price) row : Rat) -
    exactDiscount price row| ≤ 1 / 2

/-- The code takes no more off the higher price than can be rounded to zero,
and what it leaves of the price is not rounded above it. -/
structure DiscountFits (price higher : Cents) (row : DiscountCodeRow) :
    Prop where
  notBelow : -(1 / 2) ≤ exactDiscount higher row
  notAbove : exactDiscount price row < ⌊decimal price⌋ + 1 / 2 ∨
    exactDiscount price row = ⌊decimal price⌋ + 1 / 2 ∧
      ⌊decimal price⌋ % 2 = 0

section Discounts

variable {price higher : Cents} {row stronger : DiscountCodeRow}

theorem applyDiscount_decimal :
    applyDiscount (decimal price) row =
      roundHalfEven (exactDiscount price row) :=
  rfl

theorem decimal_mono {first second : Cents} (le : first ≤ second) :
    decimal first ≤ decimal second := by
  have casted : (first : Rat) ≤ second := by exact_mod_cast le
  unfold decimal
  linarith

theorem decimal_nonneg (nonneg : 0 ≤ price) : 0 ≤ decimal price := by
  have zero := decimal_mono nonneg
  rwa [decimal, Int.cast_zero, zero_div] at zero

/-- A stronger code leaves less of the price. -/
theorem exactDiscount_anti (nonneg : 0 ≤ price)
    (weaker : row.percent ≤ stronger.percent) :
    exactDiscount price stronger ≤ exactDiscount price row := by
  have factor : 100 - decimal stronger.percent ≤ 100 - decimal row.percent :=
    sub_le_sub_left (decimal_mono weaker) 100
  have product := mul_le_mul_of_nonneg_left factor (decimal_nonneg nonneg)
  unfold exactDiscount
  linarith

/-- Up to the whole price, more is left of a higher price. -/
theorem exactDiscount_mono (le : price ≤ higher)
    (partial_ : decimal row.percent ≤ 100) :
    exactDiscount price row ≤ exactDiscount higher row := by
  have factor : 0 ≤ 100 - decimal row.percent := sub_nonneg.mpr partial_
  have product := mul_le_mul_of_nonneg_right (decimal_mono le) factor
  unfold exactDiscount
  linarith

/-- Beyond the whole price, nothing is left. -/
theorem exactDiscount_nonpos (nonneg : 0 ≤ price)
    (beyond : 100 < decimal row.percent) : exactDiscount price row ≤ 0 := by
  have factor : 100 - decimal row.percent ≤ 0 := by linarith
  have product :=
    mul_nonpos_of_nonneg_of_nonpos (decimal_nonneg nonneg) factor
  unfold exactDiscount
  linarith

/-- Beyond the whole price, more is missing of a higher price. -/
theorem exactDiscount_anti_beyond (le : price ≤ higher)
    (beyond : 100 < decimal row.percent) :
    exactDiscount higher row ≤ exactDiscount price row := by
  have factor : 100 - decimal row.percent ≤ 0 := by linarith
  have product := mul_le_mul_of_nonpos_right (decimal_mono le) factor
  unfold exactDiscount
  linarith

theorem applyDiscount_nonneg_iff :
    0 ≤ applyDiscount (decimal price) row ↔
      -(1 / 2) ≤ exactDiscount price row := by
  rw [applyDiscount_decimal, le_roundHalfEven_iff]
  push_cast
  constructor
  · rintro (less | ⟨same, -⟩)
    · linarith
    · linarith
  · intro atLeast
    rcases lt_or_eq_of_le atLeast with less | same
    · left
      linarith
    · right
      exact ⟨by linarith, trivial⟩

theorem applyDiscount_le_price_iff :
    (applyDiscount (decimal price) row : Rat) ≤ decimal price ↔
      exactDiscount price row < ⌊decimal price⌋ + 1 / 2 ∨
        exactDiscount price row = ⌊decimal price⌋ + 1 / 2 ∧
          ⌊decimal price⌋ % 2 = 0 := by
  rw [← Int.le_floor, applyDiscount_decimal, roundHalfEven_le_iff]

/-- The laws hold of a discount if and only if it fits. -/
theorem discountsRight_iff (nonneg : 0 ≤ price) (le : price ≤ higher)
    (weaker : row.percent ≤ stronger.percent) :
    DiscountsRight price higher row stronger ↔
      DiscountFits price higher row := by
  constructor
  · intro right
    have higherNonneg : 0 ≤ applyDiscount (decimal higher) row :=
      right.nonneg.trans right.monotone
    exact ⟨applyDiscount_nonneg_iff.mp higherNonneg,
      applyDiscount_le_price_iff.mp right.le_price⟩
  · intro fits
    have notBelow : -(1 / 2) ≤ exactDiscount price row := by
      by_cases beyond : 100 < decimal row.percent
      · exact fits.notBelow.trans (exactDiscount_anti_beyond le beyond)
      · have left : 0 ≤ 100 - decimal row.percent := by linarith
        have product := mul_nonneg (decimal_nonneg nonneg) left
        unfold exactDiscount
        linarith
    refine ⟨applyDiscount_nonneg_iff.mpr notBelow,
      applyDiscount_le_price_iff.mpr fits.notAbove, ?_, ?_, ?_⟩
    · exact roundHalfEven_mono (exactDiscount_anti nonneg weaker)
    · by_cases beyond : 100 < decimal row.percent
      · have nothing : applyDiscount (decimal price) row ≤ 0 := by
          rw [applyDiscount_decimal, roundHalfEven_le_iff]
          have nonpos := exactDiscount_nonpos nonneg beyond
          left
          push_cast
          linarith
        exact nothing.trans (applyDiscount_nonneg_iff.mpr fits.notBelow)
      · exact roundHalfEven_mono
          (exactDiscount_mono le (not_lt.mp beyond))
    · exact abs_roundHalfEven_sub_le _

/-- Every percentage from 0 to 100 fits every whole price. -/
theorem discountFits_of_whole (nonneg : 0 ≤ price) (le : price ≤ higher)
    (whole : (⌊decimal price⌋ : Rat) = decimal price)
    (discount : 0 ≤ row.percent) (atMost : row.percent ≤ 10000) :
    DiscountFits price higher row := by
  have percentNonneg := decimal_nonneg discount
  have percentLe : decimal row.percent ≤ 100 := by
    have bound := decimal_mono atMost
    norm_num [decimal] at bound ⊢
    linarith
  have left : 0 ≤ 100 - decimal row.percent := by linarith
  constructor
  · have product := mul_nonneg (decimal_nonneg (nonneg.trans le)) left
    unfold exactDiscount
    linarith
  · have product := mul_nonneg (decimal_nonneg nonneg) percentNonneg
    left
    rw [whole]
    unfold exactDiscount
    linarith

end Discounts

section Examples

/-- The owner of the shop sends this text. -/
def ownerSays (text : String) : ShopEvent :=
  .received shopSurroundings
    (.message { sender := 1001, chat := 1001, text := some text })

/-- The owner presses a button with this data. -/
def ownerPresses (data : String) : ShopEvent :=
  .received shopSurroundings (.callback ⟨1001, 1001, data⟩)

def shopDiscount (percent : Cents) : DiscountCodeRow where
  resellerId := 1
  code := "EID10"
  percent := percent

theorem discountsRight_iff_half :
    DiscountsRight 65000 70000 (shopDiscount 5000) (shopDiscount 6000) := by
  have nonneg : (0 : Cents) ≤ 65000 := by decide
  have le : (65000 : Cents) ≤ 70000 := by decide
  have weaker : (shopDiscount 5000).percent ≤ (shopDiscount 6000).percent := by
    decide
  rw [discountsRight_iff nonneg le weaker]
  apply discountFits_of_whole nonneg le
  · decide +kernel
  · decide
  · decide

/-- The settings accept 150 percent, of which the discounted price is
negative.  A discount of nothing can raise a price that is not whole. -/
theorem discount_of_more_than_all :
    (((StepRuns.final (ShopEvent.step shopSettings) (newShopWorld shopDb)
        [ownerPresses "settings:add_discount", ownerSays "EID10",
          ownerSays "150", ownerSays "0"]).platform.db.row .discountCodes 1) =
        some (shopDiscount 15000)) ∧
      applyDiscount (decimal 100000) (shopDiscount 15000) = -500 ∧
      ¬ DiscountsRight 100000 100000 (shopDiscount 15000)
        (shopDiscount 15000) ∧
      ¬ DiscountsRight 60 60 (shopDiscount 0) (shopDiscount 0) := by
  have negative : applyDiscount (decimal 100000) (shopDiscount 15000) =
      -500 := by
    decide +kernel
  refine ⟨by decide +kernel, negative, fun right => ?_, fun right => ?_⟩
  · have nonneg := right.nonneg
    rw [negative] at nonneg
    exact absurd nonneg (by decide)
  · have atMost := right.le_price
    revert atMost
    decide +kernel

end Examples

end ShopBot.CustomerOrders

end Baste
