import Mathlib.Algebra.BigOperators.Group.List.Basic
import Mathlib.Algebra.GroupWithZero.Nat
import Mathlib.Data.List.Perm.Basic

namespace UsgRadius.Data

/-! Reading a list through a function that ignores some of its elements. -/

namespace Views

variable {Item View : Type} {keep : Item → Bool} {left right : List Item} {view : Item → List View}

theorem flatMap_filter (blind : ∀ item, keep item = false → view item = []) (items : List Item) :
    (items.filter keep).flatMap view = items.flatMap view := by
  induction items with
  | nil => rfl
  | cons item rest ih =>
    grind

theorem flatMap_congr_filter (same : left.filter keep = right.filter keep)
    (blind : ∀ item, keep item = false → view item = []) : left.flatMap view = right.flatMap view := by
  rw [← flatMap_filter blind left, same, flatMap_filter blind right]

theorem filterMap_congr_filter {view : Item → Option View} (same : left.filter keep = right.filter keep)
    (blind : ∀ item, keep item = false → view item = none) : left.filterMap view = right.filterMap view := by
  rw [List.filterMap_eq_flatMap_toList, List.filterMap_eq_flatMap_toList]
  exact flatMap_congr_filter same fun item unseen => by rw [blind item unseen, Option.toList_none]

theorem filter_congr_filter {select : Item → Bool} (same : left.filter keep = right.filter keep)
    (blind : ∀ item, keep item = false → select item = false) : left.filter select = right.filter select := by
  rw [← List.filterMap_eq_filter]
  exact filterMap_congr_filter same fun item unseen => by simp [Option.guard, blind item unseen]

theorem sum_map_halves (keep : Item → Bool) (weight : Item → Nat) (items : List Item) :
    (items.map weight).sum =
      ((items.filter keep).map weight).sum + ((items.filter (!keep ·)).map weight).sum := by
  rw [← List.sum_append, ← List.map_append]
  exact ((List.filter_append_perm keep items).map weight).sum_eq.symm

/-- Two lists merged into one, each in its own order. -/
inductive Merges : List Item → List Item → List Item → Prop
  | nil : Merges [] [] []
  | left {item : Item} {left right merged : List Item} (rest : Merges left right merged) :
      Merges (item :: left) right (item :: merged)
  | right {item : Item} {left right merged : List Item} (rest : Merges left right merged) :
      Merges left (item :: right) (item :: merged)

namespace Merges

variable {merged : List Item}

theorem mem (merges : Merges left right merged) {item : Item} (member : item ∈ merged) :
    item ∈ left ∨ item ∈ right := by
  induction merges with
  | nil => cases member
  | left rest ih =>
    grind
  | right rest ih =>
    grind

theorem flatMap (merges : Merges left right merged) (blind : ∀ item ∈ right, view item = []) :
    merged.flatMap view = left.flatMap view := by
  induction merges with
  | nil => rfl
  | left rest ih => rw [List.flatMap_cons, List.flatMap_cons, ih blind]
  | right rest ih =>
    grind

end Merges

end Views

end UsgRadius.Data
