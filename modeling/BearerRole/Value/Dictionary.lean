import BearerRole.Value.Basic

/-!
Dictionaries in memory. A dictionary has at most one entry a key. It lies at a place, and whoever has the place sees what is assigned
there by anyone.
-/

namespace BearerRole

set_option autoImplicit false

theorem Fields.keys_insert (fields : Fields) (key : Text) (v : Value) :
    (fields.insert key v).keys = if key ∈ fields.keys then fields.keys else fields.keys ++ [key] := by
  induction fields with
  | nil => rfl
  | cons entry rest ih =>
      obtain ⟨name, old⟩ := entry
      by_cases same : name = key
      · simp [insert, keys, same]
      · simp only [keys] at ih
        by_cases member : key ∈ rest.map Prod.fst
        · simp [insert, keys, same, ih, member]
        · simp [insert, keys, same, ih, member, Ne.symm same]

theorem Fields.get_cons (name : Text) (v : Value) (rest : Fields) (key : Text) :
    Fields.get? ((name, v) :: rest) key = if key = name then some v else rest.get? key := by
  rw [get?, List.lookup_cons]
  by_cases same : key = name
  · rw [if_pos same, beq_iff_eq.mpr same]
  · rw [if_neg same, beq_eq_false_iff_ne.mpr same]
    rfl

theorem Fields.get_insert (fields : Fields) (key : Text) (v : Value) (other : Text) :
    (fields.insert key v).get? other = if other = key then some v else fields.get? other := by
  induction fields with
  | nil => exact get_cons key v [] other
  | cons entry rest ih =>
      obtain ⟨name, old⟩ := entry
      rw [insert, get_cons]
      by_cases here : name = key
      · rw [if_pos here, get_cons, here]
        split <;> rfl
      · rw [if_neg here, get_cons, ih]
        by_cases same : other = name
        · rw [if_pos same, if_pos same, same, if_neg here]
        · rw [if_neg same, if_neg same]

structure Dictionary where
  entries : Fields
  distinct : entries.keys.Nodup

namespace Dictionary

def keys (d : Dictionary) : List Text := d.entries.keys

def get? (d : Dictionary) (key : Text) : Option Value := d.entries.get? key

def empty : Dictionary := ⟨[], .nil⟩

/-- A key that is there keeps its place; a new one goes to the end. -/
def assign (d : Dictionary) (key : Text) (v : Value) : Dictionary where
  entries := d.entries.insert key v
  distinct := by
    rw [Fields.keys_insert]
    split
    · exact d.distinct
    · next new =>
        rw [List.nodup_append]
        refine ⟨d.distinct, by simp, ?_⟩
        intro name member other last
        rw [List.mem_singleton.mp last]
        rintro rfl
        exact new member

/-- Of several entries with one key the last counts, at the place of the first. -/
def ofFields (fields : Fields) : Dictionary := fields.foldl (fun d entry => d.assign entry.1 entry.2) empty

theorem keys_assign_of_mem {d : Dictionary} {key : Text} (member : key ∈ d.keys) (v : Value) : (d.assign key v).keys = d.keys := by
  rw [keys, assign, Fields.keys_insert]
  exact if_pos member

theorem get_assign (d : Dictionary) (key : Text) (v : Value) (other : Text) :
    (d.assign key v).get? other = if other = key then some v else d.get? other :=
  Fields.get_insert d.entries key v other

end Dictionary

abbrev Place := Nat

abbrev Memory := Place → Dictionary

def Memory.assign (memory : Memory) (place : Place) (key : Text) (v : Value) : Memory := fun other =>
  if other = place then (memory place).assign key v else memory other

end BearerRole
