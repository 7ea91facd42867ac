import BearerRole.Claim.Lookup
import BearerRole.Json.Reader

/-!
The kinds of values that reading JSON gives. Roles, bytes and tuples are never among them, so a text that was read is a
text and no role, and a collection that was read is a list.
-/

namespace BearerRole.Json

set_option autoImplicit false

inductive IsJson : Value → Prop
  | null : IsJson .null
  | bool (b : Bool) : IsJson (.bool b)
  | int (n : Int) : IsJson (.int n)
  | float (x : Binary64) : IsJson (.float x)
  | text (t : Text) : IsJson (.text t)
  | list (items : List Value) (members : ∀ item ∈ items, IsJson item) : IsJson (.list items)
  | object (fields : Fields) (values : ∀ entry ∈ fields, IsJson entry.2) : IsJson (.object fields)

theorem insert_json {fields : Fields} {key : Text} {value : Value} (values : ∀ entry ∈ fields, IsJson entry.2)
    (json : IsJson value) : ∀ entry ∈ Fields.insert fields key value, IsJson entry.2 := by
  induction fields with
  | nil =>
      intro entry member
      rw [List.mem_singleton.mp member]
      exact json
  | cons first fields ih =>
      have later : ∀ entry ∈ fields, IsJson entry.2 :=
        fun entry member => values entry (List.mem_cons_of_mem _ member)
      intro entry member
      unfold Fields.insert at member
      split at member
      · rcases List.mem_cons.mp member with rfl | rest
        · exact json
        · exact later entry rest
      · rcases List.mem_cons.mp member with rfl | rest
        · exact values _ (List.mem_cons_self ..)
        · exact ih later entry rest

theorem word_json {t rest : Text} {v : Value} (read : word? t = some (v, rest)) : IsJson v := by
  have all : ∀ entry ∈ words, IsJson entry.2 := by
    intro entry member
    simp only [words, List.mem_cons, List.not_mem_nil, or_false] at member
    rcases member with rfl | rfl | rfl | rfl | rfl | rfl
    · exact .null
    · exact .bool true
    · exact .bool false
    · exact .float _
    · exact .float _
    · exact .float _
  obtain ⟨entry, member, found⟩ := List.exists_of_findSome?_eq_some read
  split at found
  · cases found
    exact all entry member
  · cases found

theorem numeral_json {limits : Limits} {numeral : Numeral} {v : Value} (given : numeral.value? limits = some v) :
    IsJson v := by
  unfold Numeral.value? at given
  split at given
  · split at given
    · cases given
      exact .int _
    · cases given
  · cases given
    exact .float _

theorem number_json {limits : Limits} {t rest : Text} {v : Value} (read : number? limits t = some (v, rest)) :
    IsJson v := by
  unfold number? at read
  split at read <;>
  · simp only [Option.bind_eq_bind, Option.bind_eq_some_iff, Prod.exists] at read
    obtain ⟨numeral, after, _, value, given, same⟩ := read
    cases same
    exact numeral_json given

/-- What is read at one amount of fuel: a value, and the items and entries gathered so far with those that follow. -/
structure ReadsJson (limits : Limits) (fuel : Nat) : Prop where
  value : ∀ {depth t v rest}, value? limits fuel depth t = some (v, rest) → IsJson v
  items : ∀ {depth before t v rest}, (∀ item ∈ before, IsJson item) →
    items? limits fuel depth before t = some (v, rest) → IsJson v
  members : ∀ {depth before t v rest}, (∀ entry ∈ before, IsJson entry.2) →
    members? limits fuel depth before t = some (v, rest) → IsJson v

theorem reads_json_succ {limits : Limits} {fuel : Nat} (ih : ReadsJson limits fuel) :
    ReadsJson limits (fuel + 1) where
  value := by
    intro depth t v rest read
    unfold value? at read
    split at read
    · obtain ⟨parts, _, same⟩ := Option.map_eq_some_iff.mp read
      cases same
      exact .text _
    · split at read
      · cases read
      · split at read
        · cases read
          exact .list [] (by simp)
        · exact ih.items (by simp) read
    · split at read
      · cases read
      · split at read
        · cases read
          exact .object [] (by simp)
        · exact ih.members (by simp) read
    · split at read
      · next found =>
          cases read
          exact word_json found
      · exact number_json read
  items := by
    intro depth before t v rest gathered read
    unfold items? at read
    simp only [Option.bind_eq_bind, Option.bind_eq_some_iff, Prod.exists] at read
    obtain ⟨item, after, first, read⟩ := read
    -- The list ends here or goes on with one item more; in both cases what is gathered is from JSON.
    have more : ∀ other ∈ item :: before, IsJson other := by
      intro other member
      rcases List.mem_cons.mp member with rfl | earlier
      · exact ih.value first
      · exact gathered other earlier
    split at read
    · cases read
      exact .list _ fun other member => more other (List.mem_reverse.mp member)
    · exact ih.items more read
    · cases read
  members := by
    intro depth before t v rest gathered read
    unfold members? at read
    split at read
    · simp only [Option.bind_eq_bind, Option.bind_eq_some_iff, Prod.exists] at read
      obtain ⟨key, afterKey, _, read⟩ := read
      split at read
      · simp only [Option.bind_eq_some_iff, Prod.exists] at read
        obtain ⟨value, after, first, read⟩ := read
        have more : ∀ entry ∈ Fields.insert before key value, IsJson entry.2 :=
          insert_json gathered (ih.value first)
        split at read
        · cases read
          exact .object _ more
        · exact ih.members more read
        · cases read
      · cases read
    · cases read

theorem reads_json (limits : Limits) (fuel : Nat) : ReadsJson limits fuel := by
  induction fuel with
  | zero =>
      constructor
      · intro depth t v rest read
        rw [value?] at read
        cases read
      · intro depth before t v rest gathered read
        rw [items?] at read
        cases read
      · intro depth before t v rest gathered read
        rw [members?] at read
        cases read
  | succ fuel ih => exact reads_json_succ ih

theorem json_of_read_bytes {limits : Limits} {bytes : Bytes} {v : Value}
    (found : readBytes limits bytes = some v) : IsJson v := by
  obtain ⟨t, _, found⟩ := Option.bind_eq_some_iff.mp found
  unfold read at found
  simp only [Option.bind_eq_bind, Option.bind_eq_some_iff, Prod.exists] at found
  obtain ⟨value, rest, found, same⟩ := found
  split at same
  · cases same
    exact (reads_json limits _).value found
  · cases same

theorem json_of_get {fields : Fields} {key : Text} {v : Value} (values : ∀ entry ∈ fields, IsJson entry.2)
    (found : fields.get? key = some v) : IsJson v := by
  unfold Fields.get? at found
  obtain ⟨before, after, rfl, _⟩ := List.lookup_eq_some_iff.mp found
  exact values (key, v) (by simp)

theorem IsJson.eq_text {v : Value} {t : Text} (json : IsJson v) (counts : v.asText? = some t) : v = .text t := by
  cases json with
  | text t =>
      cases counts
      rfl
  | _ => cases counts

theorem IsJson.follow {v found : Value} {keys : List Text} (json : IsJson v)
    (followed : Claim.follow v keys = some found) : IsJson found := by
  induction keys generalizing v with
  | nil =>
      cases followed
      exact json
  | cons key keys ih =>
      cases json with
      | object fields values =>
          rw [Claim.follow] at followed
          split at followed
          · next inner got => exact ih (json_of_get values got) followed
          · cases followed
      | _ => cases followed

end BearerRole.Json
