import BearerRole.Claim.Elevation
import BearerRole.Claim.Lookup
import Mathlib.Data.List.Forall2

/-!
Values that nothing can tell apart. The order of an object's entries counts for nothing, and entries under some keys may be left
out of account at any depth. What is found in such values under keys that count is again alike, and it elevates alike.
-/

namespace BearerRole

set_option autoImplicit false

namespace Value

/-- Values that are the same but for the order of the entries of objects, and for entries, at any depth, under keys that do
not count. -/
inductive Alike (counts : Text → Prop) : Value → Value → Prop
  | same (v : Value) : Alike counts v v
  | list {items others : List Value} (members : List.Forall₂ (Alike counts) items others) :
      Alike counts (.list items) (.list others)
  | tuple {items others : List Value} (members : List.Forall₂ (Alike counts) items others) :
      Alike counts (.tuple items) (.tuple others)
  | object {fields others : Fields}
      (entries : ∀ key, counts key → Option.Rel (Alike counts) (fields.get? key) (others.get? key)) :
      Alike counts (.object fields) (.object others)

/-- The same value, whatever the order of the entries of objects in it. -/
abbrev Same : Value → Value → Prop := Alike fun _ => True

variable {counts : Text → Prop} {v w : Value}

theorem Alike.as_text_eq (alike : Alike counts v w) : v.asText? = w.asText? := by
  cases alike <;> rfl

theorem get_cons_self (entry : Text × Value) (fields : Fields) :
    Fields.get? (entry :: fields) entry.1 = some entry.2 := List.lookup_cons_self

theorem Same.is_falsy_eq (same : Same v w) : v.isFalsy = w.isFalsy := by
  cases same with
  | same => rfl
  | list members => cases members <;> rfl
  | tuple members => cases members <;> rfl
  | @object fields others entries =>
      cases fields with
      | nil =>
          cases others with
          | nil => rfl
          | cons entry others =>
              have missing := entries entry.1 trivial
              rw [get_cons_self] at missing
              cases missing
      | cons entry fields =>
          cases others with
          | nil =>
              have missing := entries entry.1 trivial
              rw [get_cons_self] at missing
              cases missing
          | cons other others => rfl

end Value

namespace Claim

open Value (Alike)

variable {counts : Text → Prop} {v w : Value}

theorem follow_alike {keys : List Text} (counted : ∀ key ∈ keys, counts key) (alike : Alike counts v w) :
    Option.Rel (Alike counts) (follow v keys) (follow w keys) := by
  induction keys generalizing v w with
  | nil => exact .some alike
  | cons key keys ih =>
      have later : ∀ other ∈ keys, counts other := fun other member => counted other (List.mem_cons_of_mem _ member)
      cases alike with
      | same =>
          cases follow v (key :: keys) with
          | none => exact .none
          | some found => exact .some (.same found)
      | list => exact .none
      | tuple => exact .none
      | object entries =>
          have first := entries key (counted key List.mem_cons_self)
          simp only [follow]
          generalize Fields.get? _ key = one at first ⊢
          generalize Fields.get? _ key = other at first ⊢
          cases first with
          | none => exact .none
          | some inner => exact ih later inner

theorem is_same_text_alike (folded : Text) (alike : Alike counts v w) : isSameText folded v = isSameText folded w := by
  unfold isSameText
  rw [alike.as_text_eq]

theorem any_same_text_related {related : Value → Value → Prop} {folded : Text}
    (same : ∀ v w, related v w → isSameText folded v = isSameText folded w) {items others : List Value}
    (members : List.Forall₂ related items others) : items.any (isSameText folded) = others.any (isSameText folded) := by
  induction members with
  | nil => rfl
  | cons first _ ih => rw [List.any_cons, List.any_cons, same _ _ first, ih]

theorem elevates_alike (operatorValue : Text) (alike : Alike counts v w) :
    elevates operatorValue v = elevates operatorValue w := by
  cases alike with
  | same => rfl
  | list members => exact any_same_text_related (fun _ _ => is_same_text_alike _) members
  | tuple members => exact any_same_text_related (fun _ _ => is_same_text_alike _) members
  | object => rfl

theorem role_alike (operatorValue : Text) {claim other : Option Value} (alike : Option.Rel (Alike counts) claim other) :
    role operatorValue claim = role operatorValue other := by
  cases alike with
  | none => rfl
  | some alike => simp only [role, elevates_alike operatorValue alike]

end Claim

end BearerRole
