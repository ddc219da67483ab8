import Mathlib.Algebra.BigOperators.Group.List.Basic
import Mathlib.Algebra.Ring.Nat

/-!
# Totals of groups

Items fall into groups.  When every item is in one of some distinct groups, the
totals of these groups add up to the total of all items.
-/

namespace GroupedTotals

variable {Item Group Total : Type*} [DecidableEq Group] [AddCommMonoid Total]

/-- The items of a group, in their order. -/
def groupItems (groupOf : Item → Group) (items : List Item) (group : Group) :
    List Item :=
  items.filter fun item => groupOf item = group

/-- The total of the items of a group. -/
def groupTotal (groupOf : Item → Group) (value : Item → Total)
    (items : List Item) (group : Group) : Total :=
  ((groupItems groupOf items group).map value).sum

variable {groupOf : Item → Group} {value : Item → Total} {items : List Item}
variable {groups : List Group}

theorem groupTotal_cons {item : Item} {group : Group} :
    groupTotal groupOf value (item :: items) group =
      (if groupOf item = group then value item else 0) +
        groupTotal groupOf value items group := by
  unfold groupTotal groupItems
  rw [List.filter_cons]
  by_cases same : groupOf item = group
  · simp [same]
  · simp [same]

/-- One item counts in one of distinct groups. -/
theorem sum_map_ite_eq {group : Group} {total : Total}
    (distinct : groups.Nodup) (inside : group ∈ groups) :
    (groups.map fun other => if group = other then total else 0).sum =
      total := by
  induction groups with
  | nil => cases inside
  | cons first groups ih =>
      obtain ⟨isNew, distinct⟩ := List.nodup_cons.mp distinct
      rw [List.map_cons, List.sum_cons]
      by_cases same : group = first
      · subst same
        have none : (groups.map fun other =>
            if group = other then total else 0).sum = 0 := by
          apply List.sum_eq_zero
          intro part member
          obtain ⟨other, listed, rfl⟩ := List.mem_map.mp member
          have different : group ≠ other := fun same => isNew (same ▸ listed)
          exact if_neg different
        rw [if_pos rfl, none, add_zero]
      · have rest := (List.mem_cons.mp inside).resolve_left same
        rw [if_neg same, zero_add, ih distinct rest]

/-- The totals of all groups add up to the total of all items. -/
theorem sum_groupTotal (distinct : groups.Nodup)
    (grouped : ∀ item ∈ items, groupOf item ∈ groups) :
    (groups.map (groupTotal groupOf value items)).sum =
      (items.map value).sum := by
  induction items with
  | nil =>
      have nothing : groupTotal groupOf value [] =
          fun _ : Group => (0 : Total) := rfl
      rw [nothing, List.map_nil, List.sum_nil]
      exact List.sum_eq_zero (by simp)
  | cons item items ih =>
      have inside := grouped item List.mem_cons_self
      have rest := ih fun other member =>
        grouped other (List.mem_cons_of_mem _ member)
      have split : groupTotal groupOf value (item :: items) = fun group =>
          (if groupOf item = group then value item else 0) +
            groupTotal groupOf value items group :=
        funext fun _ => groupTotal_cons
      rw [split, List.sum_map_add, sum_map_ite_eq distinct inside, rest,
        List.map_cons, List.sum_cons]

theorem sum_map_one {items : List Item} :
    (items.map fun _ => 1).sum = items.length := by
  rw [List.map_const', List.sum_replicate_nat, Nat.mul_one]

/-- The groups have as many items as there are. -/
theorem sum_length_groupItems (distinct : groups.Nodup)
    (grouped : ∀ item ∈ items, groupOf item ∈ groups) :
    (groups.map fun group => (groupItems groupOf items group).length).sum =
      items.length := by
  have counts := @sum_groupTotal Item Group Nat _ _ groupOf (fun _ => 1) items
    groups distinct grouped
  have ones : groupTotal groupOf (fun _ => 1) items =
      fun group => (groupItems groupOf items group).length :=
    funext fun _ => sum_map_one
  rw [ones] at counts
  exact counts.trans sum_map_one

end GroupedTotals
