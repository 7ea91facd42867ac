import BearerRole.Proofs.Log.Redaction

/-!
Redaction of a dictionary where it lies. The walk over the keys replaces one value at a time and never touches names, order or any
other dictionary, so that what has been walked over is redacted and the rest is as it was. At the end this is the redaction of
all entries, and whoever holds the dictionary sees it.
-/

namespace BearerRole

set_option autoImplicit false

theorem Fields.eq_of_get {fields others : Fields} (distinct : fields.keys.Nodup) (sameKeys : fields.keys = others.keys)
    (same : ∀ key ∈ fields.keys, fields.get? key = others.get? key) : fields = others := by
  induction fields generalizing others with
  | nil => exact (List.map_eq_nil_iff.mp sameKeys.symm).symm
  | cons entry rest ih =>
      obtain ⟨name, v⟩ := entry
      cases others with
      | nil => cases sameKeys
      | cons other others =>
          obtain ⟨otherName, w⟩ := other
          obtain ⟨rfl, sameRest⟩ : name = otherName ∧ Fields.keys rest = Fields.keys others := List.cons.inj sameKeys
          obtain ⟨new, distinctRest⟩ := List.nodup_cons.mp distinct
          have first := same name List.mem_cons_self
          rw [get_cons, get_cons, if_pos rfl, if_pos rfl] at first
          cases first
          have later : ∀ key ∈ Fields.keys rest, Fields.get? rest key = Fields.get? others key := by
            intro key member
            have there := same key (List.mem_cons_of_mem name member)
            have apart : key ≠ name := by
              rintro rfl
              exact new member
            rwa [get_cons, get_cons, if_neg apart, if_neg apart] at there
          rw [ih distinctRest sameRest later]

theorem Dictionary.eq_of_entries {d other : Dictionary} (same : d.entries = other.entries) : d = other := by
  cases d
  cases other
  cases same
  rfl

namespace Log

variable {memory : Memory} {place : Place}

theorem redact_key_elsewhere {other : Place} (apart : other ≠ place) (memory : Memory) (key : Text) :
    redactKey place memory key other = memory other := by
  rw [redactKey]
  split
  · exact if_neg apart
  · rfl

theorem walk_elsewhere {other : Place} (apart : other ≠ place) (memory : Memory) (keys : List Text) :
    keys.foldl (redactKey place) memory other = memory other := by
  induction keys generalizing memory with
  | nil => rfl
  | cons key keys ih => rw [List.foldl_cons, ih, redact_key_elsewhere apart]

/-- What a dictionary is like when the walk has come so far. -/
structure Walked (walked : List Text) (before after : Dictionary) : Prop where
  keys : after.keys = before.keys
  values : ∀ key, after.get? key = if key ∈ walked then (before.get? key).map (cover key) else before.get? key

theorem Walked.start (before : Dictionary) : Walked [] before before :=
  ⟨rfl, fun _ => (if_neg List.not_mem_nil).symm⟩

theorem get_of_key {d : Dictionary} {key : Text} (member : key ∈ d.keys) : ∃ v, d.get? key = some v := by
  have found : (d.get? key).isSome = true := by
    rw [Dictionary.get?, Fields.get?, List.lookup_isSome_iff]
    obtain ⟨entry, inside, rfl⟩ := List.mem_map.mp member
    exact ⟨entry, inside, beq_self_eq_true _⟩
  exact Option.isSome_iff_exists.mp found

theorem redact_key_values {key : Text} (member : key ∈ (memory place).keys) (other : Text) :
    (redactKey place memory key place).get? other =
      if other = key then ((memory place).get? other).map (cover other) else (memory place).get? other := by
  obtain ⟨v, found⟩ := get_of_key member
  rw [redactKey]
  by_cases sensitive : isSensitiveName key = true
  · have assigned : memory.assign place key redacted place = (memory place).assign key redacted := if_pos rfl
    rw [if_pos sensitive, assigned, Dictionary.get_assign]
    by_cases here : other = key
    · rw [if_pos here, if_pos here, here, found, Option.map_some, cover, if_pos sensitive]
    · rw [if_neg here, if_neg here]
  · rw [if_neg sensitive]
    by_cases here : other = key
    · rw [if_pos here, here, found, Option.map_some, cover, if_neg sensitive]
    · rw [if_neg here]

theorem redact_key_keys {key : Text} (member : key ∈ (memory place).keys) :
    (redactKey place memory key place).keys = (memory place).keys := by
  rw [redactKey]
  split
  · have assigned : memory.assign place key redacted place = (memory place).assign key redacted := if_pos rfl
    rw [assigned]
    exact Dictionary.keys_assign_of_mem member redacted
  · rfl

theorem Walked.step {walked : List Text} {before : Dictionary} (soFar : Walked walked before (memory place)) {key : Text}
    (member : key ∈ before.keys) : Walked (walked ++ [key]) before (redactKey place memory key place) := by
  have here : key ∈ (memory place).keys := by rwa [soFar.keys]
  constructor
  · rw [redact_key_keys here, soFar.keys]
  · intro other
    rw [redact_key_values here, soFar.values]
    by_cases now : other = key
    · have member : other ∈ walked ++ [key] := List.mem_append_right walked (List.mem_singleton.mpr now)
      rw [if_pos now, if_pos member]
      by_cases earlier : other ∈ walked
      -- Nothing shows of a second turn for the same key.
      · have once : cover other ∘ cover other = cover other := funext (cover_cover other)
        rw [if_pos earlier, Option.map_map, once]
      · rw [if_neg earlier]
    · have same : other ∈ walked ++ [key] ↔ other ∈ walked := by simp [now]
      rw [if_neg now]
      simp only [same]

theorem Walked.walk {walked : List Text} {before : Dictionary} (soFar : Walked walked before (memory place)) {keys : List Text}
    (inside : ∀ key ∈ keys, key ∈ before.keys) : Walked (walked ++ keys) before (keys.foldl (redactKey place) memory place) := by
  induction keys generalizing memory walked with
  | nil => rwa [List.append_nil]
  | cons key keys ih =>
      rw [List.foldl_cons, ← List.singleton_append, ← List.append_assoc]
      exact ih (soFar.step (inside key List.mem_cons_self)) fun later member => inside later (List.mem_cons_of_mem key member)

theorem redact_at_walked (place : Place) (memory : Memory) :
    Walked (memory place).keys (memory place) ((redactAt place memory).2 place) :=
  (Walked.start (memory place)).walk fun _ member => member

theorem entries_redact_at (place : Place) (memory : Memory) :
    ((redactAt place memory).2 place).entries = redact (memory place).entries := by
  have walked := redact_at_walked place memory
  apply Fields.eq_of_get ((redactAt place memory).2 place).distinct
  · exact walked.keys.trans (keys_redact _).symm
  · intro key member
    have inside : key ∈ (memory place).keys := by rwa [← walked.keys]
    rw [get_redact]
    exact (walked.values key).trans (if_pos inside)

theorem redact_at_redacted {memory : Memory} (covered : redact (memory place).entries = (memory place).entries) :
    redactAt place memory = (place, memory) := by
  apply Prod.ext
  · rfl
  · funext other
    by_cases here : other = place
    · rw [here]
      exact Dictionary.eq_of_entries ((entries_redact_at place memory).trans covered)
    · exact walk_elsewhere here memory _

/-- What becomes of a dictionary. -/
structure IsRedacted (before after : Dictionary) : Prop where
  keys : after.keys = before.keys
  marked : ∀ key ∈ before.keys, IsSensitive key → after.get? key = some redacted
  kept : ∀ key, ¬IsSensitive key → after.get? key = before.get? key

theorem is_redacted_of_entries {before after : Dictionary} (covered : after.entries = redact before.entries) :
    IsRedacted before after := by
  have values : ∀ key, after.get? key = (before.get? key).map (cover key) := by
    intro key
    rw [Dictionary.get?, covered, get_redact]
    rfl
  constructor
  · rw [Dictionary.keys, covered, keys_redact]
    rfl
  · intro key member sensitive
    obtain ⟨v, found⟩ := get_of_key member
    rw [values, found, Option.map_some, cover, if_pos (is_sensitive_name_iff.mpr sensitive)]
  · intro key plain
    rw [← is_sensitive_name_iff, Bool.not_eq_true] at plain
    have shown : cover key = id := funext (cover_of_plain plain)
    rw [values, shown, Option.map_id, id]

/-- The redaction of a dictionary tells its names in their order and the values that are not sensitive, and nothing else. -/
theorem redact_eq_of_plain {d other : Dictionary} (sameKeys : d.keys = other.keys)
    (plain : ∀ key ∈ d.keys, ¬IsSensitive key → d.get? key = other.get? key) : redact d.entries = redact other.entries := by
  apply Fields.eq_of_get
  · rw [keys_redact]
    exact d.distinct
  · rw [keys_redact, keys_redact]
    exact sameKeys
  · intro key member
    rw [keys_redact] at member
    have otherMember : key ∈ other.keys := by
      rw [← sameKeys]
      exact member
    obtain ⟨v, found⟩ : ∃ v, d.get? key = some v := get_of_key member
    obtain ⟨w, otherFound⟩ := get_of_key otherMember
    have same := plain key member
    rw [found, otherFound, Option.some.injEq] at same
    rw [Dictionary.get?] at found otherFound
    rw [get_redact, get_redact, found, otherFound, Option.map_some, Option.map_some, cover_eq_iff.mpr same]

/-- Redaction gives back the dictionary that it was given, and leaves all others alone. The names are the same in the same order; every
value under a sensitive name is the mark, and every other value is what it was. A second time changes nothing. And two
dictionaries with the same names in the same order that agree in the values under all other names come to the same. -/
theorem redacted_in_place (place : Place) (memory : Memory) :
    (redactAt place memory).1 = place ∧
      (∀ other, other ≠ place → (redactAt place memory).2 other = memory other) ∧
      IsRedacted (memory place) ((redactAt place memory).2 place) ∧
      redactAt place (redactAt place memory).2 = redactAt place memory ∧
      ∀ place' memory', (memory place).keys = (memory' place').keys →
        (∀ key ∈ (memory place).keys, ¬IsSensitive key → (memory place).get? key = (memory' place').get? key) →
          (redactAt place memory).2 place = (redactAt place' memory').2 place' := by
  refine ⟨rfl, fun other apart => walk_elsewhere apart memory _, ?_, ?_, ?_⟩
  · exact is_redacted_of_entries (entries_redact_at place memory)
  · apply redact_at_redacted
    rw [entries_redact_at, redact_redact]
  · intro place' memory' sameKeys plain
    apply Dictionary.eq_of_entries
    rw [entries_redact_at, entries_redact_at, redact_eq_of_plain sameKeys plain]

/-- Names that differ only in case are fields of their own, and the kelvin sign is a `k`. -/
theorem keys_of_any_case_redacted :
    let first : Dictionary := ⟨[(text "Token", .int 1), (text "event", .ofText "token=a"), (text "TO\u212aEN", .null), (text "token", .list [])],
      by decide⟩
    let second : Dictionary := ⟨[(text "Token", .null), (text "event", .ofText "token=a"), (text "TO\u212aEN", .int 2), (text "token", .int 3)],
      by decide⟩
    let memory : Memory := fun place => if place = 7 then first else second
    (memory 7).keys = (memory 4).keys ∧
      (∀ key ∈ (memory 7).keys, ¬IsSensitive key → (memory 7).get? key = (memory 4).get? key) ∧
      (redactAt 7 memory).2 7 = (redactAt 4 memory).2 4 ∧ (redactAt 7 memory).2 4 = second ∧
      ((redactAt 7 memory).2 7).entries = [(text "Token", redacted), (text "event", .ofText "token=a"), (text "TO\u212aEN", redacted),
        (text "token", redacted)] := by
  intro first second memory
  have sensitive : ∀ key, isSensitiveName key = true → ∀ v w : Option Value, ¬IsSensitive key → v = w := by
    intro key sensitive v w plain
    exact absurd (is_sensitive_name_iff.mp sensitive) plain
  have plain : ∀ key ∈ (memory 7).keys, ¬IsSensitive key → (memory 7).get? key = (memory 4).get? key := by
    have names : (memory 7).keys = [text "Token", text "event", text "TO\u212aEN", text "token"] := rfl
    simp only [names, List.forall_mem_cons]
    exact ⟨sensitive _ (by decide +kernel) _ _, fun _ => rfl, sensitive _ (by decide +kernel) _ _,
      sensitive _ (by decide +kernel) _ _, fun _ member => absurd member List.not_mem_nil⟩
  obtain ⟨_, others, _, _, alike⟩ := redacted_in_place 7 memory
  exact ⟨rfl, plain, alike 4 memory rfl plain, others 4 (by decide), by decide +kernel⟩

end Log

end BearerRole
