import BearerRole.Gate.Route
import Mathlib.Data.List.Basic

/-!
Which requests reach an endpoint: those with its method and a path of its own, and no others.
-/

namespace BearerRole.Gate

set_option autoImplicit false

def IsFixed (fixed : String) (path : Text) : Prop := path = text fixed ∨ path = text fixed ++ [10]

def Reaches (method path : Text) : Route → Prop
  | .sources => method = text "GET" ∧ IsFixed "/sources" path
  | .refresh => method = text "POST" ∧ IsFixed "/sources/refresh" path
  | .viewer => method = text "GET" ∧ IsFixed "/viewer" path
  | .item name => method = text "PUT" ∧ path = text "/items/" ++ name ∧ name ≠ [] ∧ 47 ∉ name

theorem is_fixed_iff {path : Text} {fixed : String} : Route.isFixed path fixed = true ↔ IsFixed fixed path := by
  simp [Route.isFixed, IsFixed]

theorem item_not_fixed {fixed : String} {letter : CodePoint} (second : (text fixed)[1]? = some letter)
    (other : letter ≠ 105) (name : Text) : Route.isFixed (Route.itemsPath ++ name) fixed = false := by
  rw [Bool.eq_false_iff, ne_eq, is_fixed_iff]
  intro same
  have ofItem : (Route.itemsPath ++ name)[1]? = some 105 := rfl
  have long := (List.getElem?_eq_some_iff.mp second).1
  have ofFixed : (Route.itemsPath ++ name)[1]? = some letter := by
    rcases same with same | same
    · rw [same, second]
    · rw [same, List.getElem?_append_left long, second]
  rw [ofItem] at ofFixed
  exact other (Option.some.inj ofFixed).symm

theorem of_path_of_item {name : Text} (named : name ≠ []) (whole : 47 ∉ name) :
    Route.ofPath? (Route.itemsPath ++ name) = some (.item name) := by
  have sources := @item_not_fixed "/sources" 115 rfl (by decide) name
  have refresh := @item_not_fixed "/sources/refresh" 115 rfl (by decide) name
  have viewer := @item_not_fixed "/viewer" 118 rfl (by decide) name
  have starts : Route.itemsPath.isPrefixOf (Route.itemsPath ++ name) = true :=
    List.isPrefixOf_iff_prefix.mpr (List.prefix_append _ _)
  have accepted : (name.isEmpty || name.contains 47) = false := by simp [named, whole]
  simp only [Route.ofPath?, sources, refresh, viewer, starts, List.drop_left, accepted, if_true,
    Bool.false_eq_true, if_false]

theorem of_path_eq_some_iff {path : Text} {route : Route} :
    Route.ofPath? path = some route ↔ Reaches route.method path route := by
  constructor
  · intro found
    unfold Route.ofPath? at found
    split at found
    · next fixed =>
        cases found
        exact ⟨rfl, is_fixed_iff.mp fixed⟩
    split at found
    · next fixed =>
        cases found
        exact ⟨rfl, is_fixed_iff.mp fixed⟩
    split at found
    · next fixed =>
        cases found
        exact ⟨rfl, is_fixed_iff.mp fixed⟩
    split at found
    · next front =>
        have starts : Route.itemsPath ++ path.drop Route.itemsPath.length = path :=
          List.prefix_iff_eq_append.mp (List.isPrefixOf_iff_prefix.mp front)
        simp only at found
        split at found
        · cases found
        · next named =>
            cases found
            simp only [Bool.or_eq_true, List.isEmpty_iff, List.contains_iff_mem, not_or] at named
            exact ⟨rfl, starts.symm, named⟩
    · cases found
  · intro reaches
    cases route with
    | sources => rcases reaches.2 with rfl | rfl <;> decide +kernel
    | refresh => rcases reaches.2 with rfl | rfl <;> decide +kernel
    | viewer => rcases reaches.2 with rfl | rfl <;> decide +kernel
    | item name =>
        obtain ⟨-, rfl, named, whole⟩ := reaches
        exact of_path_of_item named whole

theorem Reaches.method {method path : Text} {route : Route} (reaches : Reaches method path route) :
    method = route.method := by
  cases route with
  | sources => exact reaches.1
  | refresh => exact reaches.1
  | viewer => exact reaches.1
  | item name => exact reaches.1

theorem target_eq_endpoint_iff {method path : Text} {route : Route} :
    Target.of method path = .endpoint route ↔ Reaches method path route := by
  constructor
  · intro target
    unfold Target.of at target
    split at target
    · next found =>
        split at target
        · next same =>
            cases target
            exact same ▸ of_path_eq_some_iff.mp found
        · cases target
    · split at target <;> cases target
  · intro reaches
    have same := reaches.method
    have found : Route.ofPath? path = some route := of_path_eq_some_iff.mpr (same ▸ reaches)
    simp only [Target.of, found, if_pos same]

end BearerRole.Gate
