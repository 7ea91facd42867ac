import BearerRole.Proofs.Claim.Alike
import BearerRole.Proofs.Text.CaseMap

/-!
How claims are mapped to roles. A text gives the operator role when it is the operator value but for case, a list when one of the
texts among its members is. So a list counts by these texts alone, whatever their order and number and whatever stands beside
them, and folding the case of the operator value or of texts in the claim changes nothing.
-/

namespace BearerRole.Claim

set_option autoImplicit false

variable {operatorValue : Text}

theorem is_same_text_iff {folded : Text} {v : Value} :
    isSameText folded v = true ↔ ∃ t, v.asText? = some t ∧ Text.fold t = folded := by
  unfold isSameText
  cases v.asText? <;> simp

theorem elevates_text_iff {t : Text} :
    elevates operatorValue (.text t) = true ↔ Text.fold t = Text.fold operatorValue := by
  have asked : elevates operatorValue (.text t) = isSameText (Text.fold operatorValue) (.text t) := rfl
  rw [asked, is_same_text_iff]
  simp [Value.asText?]

def memberTexts (items : List Value) : List Text := items.filterMap Value.asText?

theorem elevates_list_iff {items : List Value} :
    elevates operatorValue (.list items) = true ↔ ∃ t ∈ memberTexts items, Text.fold t = Text.fold operatorValue := by
  have asked : elevates operatorValue (.list items) = items.any (isSameText (Text.fold operatorValue)) := rfl
  rw [asked, List.any_eq_true]
  constructor
  · rintro ⟨item, inside, same⟩
    obtain ⟨t, counts, folded⟩ := is_same_text_iff.mp same
    exact ⟨t, List.mem_filterMap.mpr ⟨item, inside, counts⟩, folded⟩
  · rintro ⟨t, member, folded⟩
    obtain ⟨item, inside, counts⟩ := List.mem_filterMap.mp member
    exact ⟨item, inside, is_same_text_iff.mpr ⟨t, counts, folded⟩⟩

theorem role_eq_operator_iff {claim : Option Value} :
    role operatorValue claim = .operator ↔ ∃ v, claim = some v ∧ elevates operatorValue v = true := by
  cases claim with
  | none => simp [role]
  | some v => simp [role]

@[simp]
theorem role_some_eq_operator_iff {v : Value} :
    role operatorValue (some v) = .operator ↔ elevates operatorValue v = true := by
  simp [role_eq_operator_iff]

theorem role_eq_of_operator_iff {one other : Role} (same : one = .operator ↔ other = .operator) : one = other := by
  cases one <;> cases other <;> simp_all

/-- The values that are neither text nor a collection. -/
inductive Silent : Value → Prop
  | null : Silent .null
  | bool (b : Bool) : Silent (.bool b)
  | int (n : Int) : Silent (.int n)
  | float (x : Binary64) : Silent (.float x)
  | bytes (b : Bytes) : Silent (.bytes b)
  | object (fields : Fields) : Silent (.object fields)

theorem Silent.not_elevates {v : Value} (silent : Silent v) : elevates operatorValue v = false := by
  cases silent <;> rfl

theorem Silent.no_text {v : Value} (silent : Silent v) : v.asText? = none := by
  cases silent <;> rfl

theorem member_texts_eq_nil {items : List Value} (untold : ∀ v ∈ items, Silent v ∨ ∃ nested, v = .list nested) :
    memberTexts items = [] := by
  rw [memberTexts, List.filterMap_eq_nil_iff]
  intro v member
  rcases untold v member with silent | ⟨nested, rfl⟩
  · exact silent.no_text
  · rfl

/-- Values that are the same but for some of the texts in them, at any depth, which are folded in the second one. The keys of
objects may be folded as well. -/
inductive Folded : Value → Value → Prop
  | same (v : Value) : Folded v v
  | text (t : Text) : Folded (.text t) (.text (Text.fold t))
  | list {items others : List Value} (members : List.Forall₂ Folded items others) : Folded (.list items) (.list others)
  | tuple {items others : List Value} (members : List.Forall₂ Folded items others) : Folded (.tuple items) (.tuple others)
  | object {fields others : Fields}
      (keys : List.Forall₂ (fun key other => other = key ∨ other = Text.fold key) (Fields.keys fields) (Fields.keys others))
      (values : List.Forall₂ Folded (fields.map Prod.snd) (others.map Prod.snd)) :
      Folded (.object fields) (.object others)

theorem Folded.is_same_text {folded : Text} (v w : Value) (related : Folded v w) :
    isSameText folded v = isSameText folded w := by
  cases related with
  | same => rfl
  | text t => simp only [isSameText, Value.asText?, Text.fold_fold]
  | list => rfl
  | tuple => rfl
  | object => rfl

theorem Folded.elevates_eq {v w : Value} (related : Folded v w) : elevates operatorValue v = elevates operatorValue w := by
  cases related with
  | same => rfl
  | text t => exact Folded.is_same_text _ _ (.text t)
  | list members => exact any_same_text_related Folded.is_same_text members
  | tuple members => exact any_same_text_related Folded.is_same_text members
  | object => rfl

structure MappingLaws (operatorValue : Text) : Prop where
  append : ∀ items others, role operatorValue (some (.list (items ++ others))) = .operator ↔
    role operatorValue (some (.list items)) = .operator ∨ role operatorValue (some (.list others)) = .operator
  /-- Neither the order of the members counts, nor how often a text is among them, nor what is not text. -/
  byTexts : ∀ items others, (∀ t, t ∈ memberTexts items ↔ t ∈ memberTexts others) →
    role operatorValue (some (.list items)) = role operatorValue (some (.list others))
  monotone : ∀ items others, memberTexts items ⊆ memberTexts others →
    role operatorValue (some (.list items)) = .operator → role operatorValue (some (.list others)) = .operator
  single : ∀ t items, memberTexts items ≠ [] → (∀ other ∈ memberTexts items, other = t) →
    role operatorValue (some (.text t)) = role operatorValue (some (.list items))
  silent : ∀ v, Silent v → role operatorValue (some v) = .viewer
  silentMembers : ∀ items, (∀ v ∈ items, Silent v ∨ ∃ nested, v = .list nested) →
    role operatorValue (some (.list items)) = .viewer
  foldedOperator : ∀ claim, role (Text.fold operatorValue) claim = role operatorValue claim
  foldedClaim : ∀ v w, Folded v w → role operatorValue (some w) = role operatorValue (some v)

theorem role_list_of_subset {items others : List Value} (more : memberTexts items ⊆ memberTexts others)
    (elevated : role operatorValue (some (.list items)) = .operator) :
    role operatorValue (some (.list others)) = .operator := by
  rw [role_some_eq_operator_iff, elevates_list_iff] at elevated ⊢
  obtain ⟨t, member, folded⟩ := elevated
  exact ⟨t, more member, folded⟩

theorem role_list_append {items others : List Value} :
    role operatorValue (some (.list (items ++ others))) = .operator ↔
      role operatorValue (some (.list items)) = .operator ∨ role operatorValue (some (.list others)) = .operator := by
  simp only [role_some_eq_operator_iff, elevates_list_iff, memberTexts, List.filterMap_append, List.mem_append, or_and_right,
    exists_or]

theorem role_of_single {t : Text} {items : List Value} (some_text : memberTexts items ≠ [])
    (alike : ∀ other ∈ memberTexts items, other = t) :
    role operatorValue (some (.text t)) = role operatorValue (some (.list items)) := by
  apply role_eq_of_operator_iff
  rw [role_some_eq_operator_iff, role_some_eq_operator_iff, elevates_text_iff, elevates_list_iff]
  constructor
  · intro folded
    obtain ⟨other, member⟩ := List.exists_mem_of_ne_nil _ some_text
    exact ⟨other, member, by rw [alike other member, folded]⟩
  · rintro ⟨other, member, folded⟩
    rw [← alike other member, folded]

theorem role_fold_operator (claim : Option Value) : role (Text.fold operatorValue) claim = role operatorValue claim := by
  have asked (v : Value) : elevates (Text.fold operatorValue) v = elevates operatorValue v := by
    unfold elevates
    rw [Text.fold_fold]
  cases claim with
  | none => rfl
  | some v => simp only [role, asked]

theorem role_of_unelevated {v : Value} (low : elevates operatorValue v = false) :
    role operatorValue (some v) = .viewer := by
  simp only [role, low, Bool.false_eq_true, if_false]

/-- Claims are mapped by their texts alone and without regard to case, and folding the case of a text twice is folding it
once. -/
theorem mapped_by_texts_alone (operatorValue : Text) :
    MappingLaws operatorValue ∧ ∀ t, Text.fold (Text.fold t) = Text.fold t := by
  refine ⟨?_, Text.fold_fold⟩
  constructor
  case append =>
    intro items others
    exact role_list_append
  case byTexts =>
    intro items others same
    apply role_eq_of_operator_iff
    constructor
    · exact role_list_of_subset fun t => (same t).mp
    · exact role_list_of_subset fun t => (same t).mpr
  case monotone =>
    intro items others
    exact role_list_of_subset
  case single =>
    intro t items
    exact role_of_single
  case silent =>
    intro v silent
    exact role_of_unelevated silent.not_elevates
  case silentMembers =>
    intro items untold
    apply role_of_unelevated
    rw [← Bool.not_eq_true, elevates_list_iff, member_texts_eq_nil untold]
    simp
  case foldedOperator => exact role_fold_operator
  case foldedClaim =>
    intro v w folded
    simp only [role, folded.elevates_eq]

/-- One letter and the two that it is folded to are the same, so a list with such a text elevates; the same text in a list
within the list does not count. -/
theorem folded_member_elevates :
    role (text "Stra\u00dfe") (some (.list [.int 1, .ofText "STRASSE"])) = .operator ∧
      role (text "Stra\u00dfe") (some (.list [.int 1, .list [.ofText "STRASSE"]])) = .viewer := by
  obtain ⟨laws, _⟩ := mapped_by_texts_alone (text "Stra\u00dfe")
  have alone : role (text "Stra\u00dfe") (some (.text (text "STRASSE"))) = .operator := by decide +kernel
  constructor
  · rw [← laws.single (text "STRASSE") [.int 1, .ofText "STRASSE"] (by decide) (by decide)]
    exact alone
  · apply laws.silentMembers
    intro v member
    simp only [List.mem_cons, List.not_mem_nil, or_false] at member
    rcases member with rfl | rfl
    · exact .inl (.int 1)
    · exact .inr ⟨_, rfl⟩

end BearerRole.Claim
