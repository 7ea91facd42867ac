import BearerRole.Log.Entry
import Mathlib.Data.List.Forall2

/-!
Redaction and the ways in which fields come together. Redacting keeps names and order, and goes through every operation that
adds fields, so it does not matter whether a field is redacted before it is added or after. Two lists of fields have one
redacted form exactly when they differ in nothing but the values under sensitive names.
-/

namespace BearerRole

set_option autoImplicit false

theorem Text.includes_iff {needle t : Text} : includes needle t = true ↔ needle <:+: t := by
  induction t with
  | nil => simp [includes]
  | cons c rest ih => rw [includes, Bool.or_eq_true, ih, List.isPrefixOf_iff_prefix, List.infix_cons_iff]

namespace Log

/-- A name is sensitive that is a listed one in lower case, or has a listed part in lower case. -/
def IsSensitive (name : Text) : Prop :=
  Text.lower name ∈ [text "token", text "authorization", text "bearer", text "claims", text "password", text "secret",
    text "credential", text "private_key"] ∨
    text "token" <:+: Text.lower name ∨ text "secret" <:+: Text.lower name

theorem is_sensitive_name_iff {name : Text} : isSensitiveName name = true ↔ IsSensitive name := by
  simp only [isSensitiveName, sensitiveNames, sensitiveParts, IsSensitive, Bool.or_eq_true, List.contains_iff_mem,
    List.any_cons, List.any_nil, Bool.or_false, Text.includes_iff]

def cover (name : Text) (v : Value) : Value := if isSensitiveName name then redacted else v

theorem cover_cover (name : Text) (v : Value) : cover name (cover name v) = cover name v := by
  unfold cover
  split <;> rfl

theorem cover_of_plain {name : Text} (plain : isSensitiveName name = false) (v : Value) : cover name v = v := by
  simp [cover, plain]

@[simp]
theorem redact_nil : redact [] = [] := rfl

@[simp]
theorem redact_cons (entry : Text × Value) (rest : Fields) :
    redact (entry :: rest) = (entry.1, cover entry.1 entry.2) :: redact rest := by
  simp only [redact, List.map_cons, cover]
  split <;> rfl

theorem redact_redact (fields : Fields) : redact (redact fields) = redact fields := by
  induction fields with
  | nil => rfl
  | cons entry rest ih => simp only [redact_cons, cover_cover, ih]

@[simp]
theorem keys_redact (fields : Fields) : (redact fields).keys = fields.keys := by
  induction fields with
  | nil => rfl
  | cons entry rest ih =>
      simp only [redact_cons, Fields.keys, List.map_cons] at ih ⊢
      rw [ih]

theorem get_redact (fields : Fields) (key : Text) : (redact fields).get? key = (fields.get? key).map (cover key) := by
  induction fields with
  | nil => rfl
  | cons entry rest ih =>
      obtain ⟨name, v⟩ := entry
      simp only [redact_cons, Fields.get?, List.lookup_cons] at ih ⊢
      cases same : key == name with
      | true => rw [eq_of_beq same]; rfl
      | false => exact ih

@[simp]
theorem has_redact (fields : Fields) (key : Text) : (redact fields).has key = fields.has key := by
  simp only [Fields.has, get_redact, Option.isSome_map]

theorem get_redact_of_plain {key : Text} (plain : isSensitiveName key = false) (fields : Fields) :
    (redact fields).get? key = fields.get? key := by
  have shown : cover key = id := funext (cover_of_plain plain)
  rw [get_redact, shown, Option.map_id, id]

theorem redact_insert (fields : Fields) (key : Text) (v : Value) :
    redact (fields.insert key v) = (redact fields).insert key (cover key v) := by
  induction fields with
  | nil => simp [Fields.insert]
  | cons entry rest ih =>
      obtain ⟨name, old⟩ := entry
      simp only [Fields.insert, redact_cons]
      split
      · next same => rw [redact_cons, same]
      · rw [redact_cons, ih]

theorem redact_insert_all (fields more : Fields) :
    redact (fields.insertAll more) = (redact fields).insertAll (redact more) := by
  induction more generalizing fields with
  | nil => rfl
  | cons entry more ih =>
      have step : ∀ (into : Fields) (name : Text) (v : Value) (later : Fields),
          into.insertAll ((name, v) :: later) = (into.insert name v).insertAll later := fun _ _ _ _ => rfl
      rw [step, ih, redact_insert, redact_cons, step]

theorem redact_add_context (context fields : Fields) :
    redact (addContext context fields) = addContext (redact context) (redact fields) := by
  induction context generalizing fields with
  | nil => rfl
  | cons entry context ih =>
      have step : ∀ (name : Text) (v : Value) (later into : Fields), addContext ((name, v) :: later) into =
          addContext later (if into.has name then into else into.insert name v) := fun _ _ _ _ => rfl
      obtain ⟨name, v⟩ := entry
      rw [step, ih, redact_cons, step, has_redact]
      split
      · rfl
      · rw [redact_insert]

theorem redact_filter (keep : Text → Bool) (fields : Fields) :
    redact (fields.filter fun entry => keep entry.1) = (redact fields).filter fun entry => keep entry.1 := by
  induction fields with
  | nil => rfl
  | cons entry rest ih =>
      obtain ⟨name, v⟩ := entry
      simp only [List.filter_cons, redact_cons]
      split
      · rw [redact_cons, ih]
      · exact ih

/-- The same names in the same order, and the same values but under sensitive names. -/
def SameButSecrets (fields others : Fields) : Prop :=
  List.Forall₂ (fun entry other => entry.1 = other.1 ∧ (¬IsSensitive entry.1 → entry.2 = other.2)) fields others

theorem cover_eq_iff {name : Text} {v other : Value} :
    cover name v = cover name other ↔ (¬IsSensitive name → v = other) := by
  rw [← is_sensitive_name_iff]
  unfold cover
  split
  · next sensitive => simp [sensitive]
  · next plain => simp [plain]

theorem redact_eq_iff {fields others : Fields} : redact fields = redact others ↔ SameButSecrets fields others := by
  induction fields generalizing others with
  | nil => cases others <;> simp [SameButSecrets]
  | cons entry rest ih =>
      obtain ⟨name, v⟩ := entry
      cases others with
      | nil => simp [SameButSecrets]
      | cons other others =>
          obtain ⟨otherName, otherValue⟩ := other
          simp only [SameButSecrets, redact_cons, List.cons.injEq, Prod.mk.injEq, List.forall₂_cons] at ih ⊢
          rw [ih]
          constructor
          · intro facts
            obtain ⟨⟨sameName, shown⟩, later⟩ := facts
            rw [← sameName] at shown
            exact ⟨⟨sameName, cover_eq_iff.mp shown⟩, later⟩
          · intro facts
            obtain ⟨⟨sameName, plain⟩, later⟩ := facts
            rw [← sameName]
            exact ⟨⟨rfl, cover_eq_iff.mpr plain⟩, later⟩

end Log

end BearerRole
