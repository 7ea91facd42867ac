import BearerRole.Proofs.Claim.Alike
import BearerRole.Proofs.Text.Cutting

/-!
Where paths lead. A path of two parts leads to where the second part leads from the value that the first one leads to. No path
names a key with a dot in it, so entries under such keys count for nothing: without them every path leads to the same value, but
for such entries in that value itself.
-/

namespace BearerRole.Claim

open Value (Alike)

set_option autoImplicit false

mutual

/-- A value without the entries, at any depth, whose key has a dot in it. -/
def undotted : Value → Value
  | .list items => .list (undottedAll items)
  | .tuple items => .tuple (undottedAll items)
  | .object fields => .object (undottedFields fields)
  | v => v

def undottedAll : List Value → List Value
  | [] => []
  | item :: items => undotted item :: undottedAll items

def undottedFields : List (Text × Value) → List (Text × Value)
  | [] => []
  | (key, value) :: fields =>
      if dot ∈ key then undottedFields fields else (key, undotted value) :: undottedFields fields

end

theorem follow_append (v : Value) (keys more : List Text) :
    follow v (keys ++ more) = (follow v keys).bind (follow · more) := by
  induction keys generalizing v with
  | nil => rfl
  | cons key keys ih =>
      cases v with
      | object fields =>
          simp only [List.cons_append, follow]
          cases Fields.get? fields key with
          | none => rfl
          | some inner => exact ih inner
      | _ => rfl

theorem at_append (v : Value) (front back : Text) :
    at? v (front ++ dot :: back) = (at? v front).bind (at? · back) := by
  rw [at?, Text.split_append, follow_append]
  rfl

theorem get_undotted {key : Text} (named : dot ∉ key) (fields : Fields) :
    Fields.get? (undottedFields fields) key = (Fields.get? fields key).map undotted := by
  induction fields with
  | nil => rfl
  | cons entry fields ih =>
      obtain ⟨name, value⟩ := entry
      rw [undottedFields]
      by_cases same : key = name
      · subst same
        rw [if_neg named]
        simp only [Fields.get?, List.lookup_cons_self, Option.map_some]
      -- The entry is not the one that is looked for, whether it is kept or left out.
      · have passed (v : Value) (rest : Fields) : Fields.get? ((name, v) :: rest) key = Fields.get? rest key := by
          simp only [Fields.get?, List.lookup_cons, beq_eq_false_iff_ne.mpr same]
        rw [passed]
        split
        · exact ih
        · rw [passed, ih]

theorem follow_undotted {keys : List Text} (named : ∀ key ∈ keys, dot ∉ key) (v : Value) :
    follow (undotted v) keys = (follow v keys).map undotted := by
  induction keys generalizing v with
  | nil => rfl
  | cons key keys ih =>
      have first : dot ∉ key := named key (List.mem_cons_self ..)
      have later : ∀ other ∈ keys, dot ∉ other := fun other member => named other (List.mem_cons_of_mem _ member)
      cases v with
      | object fields =>
          simp only [undotted, follow, get_undotted first]
          cases Fields.get? fields key with
          | none => rfl
          | some inner => exact ih later inner
      | _ => rfl

theorem key_of_path {path : Text} : ∀ key ∈ Text.split dot path, dot ∉ key :=
  fun _ member => Text.sep_not_mem_of_split member

theorem at_undotted (v : Value) (path : Text) : at? (undotted v) path = (at? v path).map undotted :=
  follow_undotted key_of_path v

mutual

theorem alike_undotted : (v : Value) → Alike (dot ∉ ·) v (undotted v)
  | .list items => .list (alike_undotted_all items)
  | .tuple items => .tuple (alike_undotted_all items)
  | .object fields => .object fun _ named => alike_undotted_fields named fields
  | .null | .bool _ | .int _ | .float _ | .text _ | .role _ | .bytes _ => .same _

theorem alike_undotted_all : (items : List Value) → List.Forall₂ (Alike (dot ∉ ·)) items (undottedAll items)
  | [] => .nil
  | item :: items => .cons (alike_undotted item) (alike_undotted_all items)

theorem alike_undotted_fields {key : Text} (named : dot ∉ key) : (fields : List (Text × Value)) →
    Option.Rel (Alike (dot ∉ ·)) (Fields.get? fields key) (Fields.get? (undottedFields fields) key)
  | [] => .none
  | (name, value) :: fields => by
      have rest := alike_undotted_fields named fields
      rw [get_undotted named] at rest ⊢
      by_cases same : key = name
      · subst same
        simp only [Fields.get?, List.lookup_cons_self]
        exact .some (alike_undotted value)
      · simp only [Fields.get?, List.lookup_cons, beq_eq_false_iff_ne.mpr same]
        exact rest

end

/-- Paths compose, and pass over entries under keys with a dot. In two values that are the same without such entries a path leads
to values that are the same without them, if to any; and so it is for values that are the same but for the order of entries. -/
theorem paths_compose_blind_to_dotted_keys (claims : Value) (front back : Text) :
    at? claims (front ++ dot :: back) = (at? claims front).bind (at? · back) ∧
      ∀ (others : Value) (path : Text),
        (undotted claims = undotted others → (at? claims path).map undotted = (at? others path).map undotted) ∧
          (Alike (dot ∉ ·) claims others → Option.Rel (Alike (dot ∉ ·)) (at? claims path) (at? others path)) := by
  refine ⟨at_append claims front back, ?_⟩
  intro others path
  constructor
  · intro same
    rw [← at_undotted, ← at_undotted, same]
  · intro alike
    exact follow_alike key_of_path alike

/-- Entries under `realm.roles` and `x.y`, at the top and below it, change nothing of what is found under `roles` in `realm`. -/
theorem dotted_entries_passed_over :
    let claims : Value := .object
      [(text "realm.roles", .ofText "viewer"),
        (text "realm", .object
          [(text "x.y", .null), (text "roles", .list [.ofText "operator", .object [(text "x.y", .int 1)]])])]
    let bare : Value := .object [(text "realm", .object [(text "roles", .list [.ofText "operator", .object []])])]
    undotted claims = undotted bare ∧ Alike (dot ∉ ·) claims bare ∧
      at? claims (text "realm.roles") = (at? claims (text "realm")).bind (at? · (text "roles")) ∧
      (at? claims (text "realm.roles")).map undotted = some (.list [.ofText "operator", .object []]) ∧
      Option.Rel (Alike (dot ∉ ·)) (at? claims (text "realm.roles")) (at? bare (text "realm.roles")) := by
  intro claims bare
  have same : undotted claims = undotted bare := rfl
  have alike : Alike (dot ∉ ·) claims bare := alike_undotted claims
  obtain ⟨composed, blind⟩ := paths_compose_blind_to_dotted_keys claims (text "realm") (text "roles")
  obtain ⟨found, related⟩ := blind bare (text "realm.roles")
  exact ⟨same, alike, composed, found same, related alike⟩

end BearerRole.Claim
