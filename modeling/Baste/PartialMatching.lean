import Mathlib.Data.Set.Function

/-!
# Matching two partial functions

Two partial functions match when some bijection of their domains carries the
one to the other: every recorded value of the first is recorded exactly once
by the second, and the other way round.  A match survives a new entry with
the same value on both sides, and a projection of the values that separates
the first domain separates the second as well.
-/

namespace PartialMatching

variable {Left Right Value Mark : Type*}

/-- Where a partial function is defined. -/
def domain (left : Left → Option Value) : Set Left :=
  {key | (left key).isSome}

/-- A bijection of the domains that keeps the values. -/
structure Matches (left : Left → Option Value) (right : Right → Option Value)
    (link : Left → Right) : Prop where
  bijOn : Set.BijOn link (domain left) (domain right)
  same : ∀ key ∈ domain left, right (link key) = left key

def Matched (left : Left → Option Value) (right : Right → Option Value) :
    Prop :=
  ∃ link, Matches left right link

/-- No two keys carry the same mark. -/
def Separates (mark : Left → Option Mark) : Prop :=
  ∀ first second found, mark first = some found → mark second = some found →
    first = second

variable {left : Left → Option Value} {right : Right → Option Value}

theorem domain_update [DecidableEq Left] {key : Left} {value : Value} :
    domain (Function.update left key (some value)) =
      insert key (domain left) := by
  ext other
  by_cases same : other = key
  · simp [same, domain]
  · simp [same, domain]

theorem Matched.of_forall_none [Nonempty Right]
    (leftNone : ∀ key, left key = none) (rightNone : ∀ key, right key = none) :
    Matched left right := by
  have leftEmpty : domain left = ∅ := by
    ext key
    simp [domain, leftNone]
  have rightEmpty : domain right = ∅ := by
    ext key
    simp [domain, rightNone]
  refine ⟨fun _ => Classical.arbitrary Right, ?_, fun key member => ?_⟩
  · rw [leftEmpty, rightEmpty]
    exact Set.bijOn_empty _
  · rw [leftEmpty] at member
    exact member.elim

/-- A new entry on both sides is linked to itself. -/
theorem Matched.insert [DecidableEq Left] [DecidableEq Right]
    (matched : Matched left right) {leftKey : Left} {rightKey : Right}
    (leftNew : left leftKey = none) (rightNew : right rightKey = none)
    (value : Value) :
    Matched (Function.update left leftKey (some value))
      (Function.update right rightKey (some value)) := by
  obtain ⟨link, bijOn, same⟩ := matched
  let extended := Function.update link leftKey rightKey
  have notLeft : leftKey ∉ domain left := by simp [domain, leftNew]
  have notRight : rightKey ∉ domain right := by simp [domain, rightNew]
  have agree : Set.EqOn link extended (domain left) := by
    intro key member
    have different : key ≠ leftKey := fun equal => notLeft (equal ▸ member)
    exact (Function.update_of_ne different _ _).symm
  have extendedSelf : extended leftKey = rightKey := Function.update_self ..
  refine ⟨extended, ?_, ?_⟩
  · rw [domain_update, domain_update, ← extendedSelf]
    apply (bijOn.congr agree).insert
    rw [extendedSelf]
    exact notRight
  · intro key member
    rw [domain_update] at member
    rcases member with rfl | member
    · rw [extendedSelf, Function.update_self, Function.update_self]
    · have different : key ≠ leftKey := fun equal => notLeft (equal ▸ member)
      have linkedElsewhere : link key ≠ rightKey :=
        fun equal => notRight (equal ▸ bijOn.mapsTo member)
      rw [← agree member, Function.update_of_ne linkedElsewhere,
        Function.update_of_ne different]
      exact same key member

/-- Every entry on the right comes from one on the left. -/
theorem Matches.exists_left {link : Left → Right}
    (isMatch : Matches left right link) {key : Right} {value : Value}
    (found : right key = some value) :
    ∃ source, link source = key ∧ left source = some value := by
  have member : key ∈ domain right := by simp [domain, found]
  obtain ⟨source, sourceMember, rfl⟩ := isMatch.bijOn.surjOn member
  exact ⟨source, rfl, by rw [← isMatch.same source sourceMember, found]⟩

/-- Marks that separate the keys on the left separate those on the right. -/
theorem Matched.separates {marks : Value → Option Mark}
    (matched : Matched left right)
    (separates : Separates fun key => (left key).bind marks) :
    Separates fun key => (right key).bind marks := by
  obtain ⟨link, isMatch⟩ := matched
  intro first second mark firstMark secondMark
  obtain ⟨firstValue, firstFound, firstMarked⟩ :=
    Option.bind_eq_some_iff.mp firstMark
  obtain ⟨secondValue, secondFound, secondMarked⟩ :=
    Option.bind_eq_some_iff.mp secondMark
  obtain ⟨firstSource, rfl, firstLeft⟩ := isMatch.exists_left firstFound
  obtain ⟨secondSource, rfl, secondLeft⟩ := isMatch.exists_left secondFound
  have sameSource : firstSource = secondSource := by
    apply separates _ _ mark
    · simpa [firstLeft] using firstMarked
    · simpa [secondLeft] using secondMarked
  rw [sameSource]

end PartialMatching
