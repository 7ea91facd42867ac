import BearerRole.Proofs.Json.Number
import BearerRole.Proofs.Json.Quoted

/-!
Reading undoes writing for plain values: those without floating-point numbers, roles, bytes and tuples, whose
texts have no surrogates, whose objects have distinct keys, and which keep within the limits on digits and
depth. A value reads back in front of whatever ends it, which is what carries the induction through lists and
objects.
-/

namespace BearerRole.Json

set_option autoImplicit false

/-- Values that every JSON encoder writes and every decoder reads the same way, with integers of at most so many
digits and collections nested at most so deep. -/
inductive IsPlain (digits : Nat) : Nat → Value → Prop
  | null (depth : Nat) : IsPlain digits depth .null
  | bool (depth : Nat) (b : Bool) : IsPlain digits depth (.bool b)
  | int (depth : Nat) (n : Int) (size : n.natAbs < 10 ^ digits) : IsPlain digits depth (.int n)
  | text (depth : Nat) (t : Text) (scalars : ∀ c ∈ t, Text.IsScalar c) : IsPlain digits depth (.text t)
  | list (depth : Nat) (items : List Value) (members : ∀ item ∈ items, IsPlain digits depth item) :
      IsPlain digits (depth + 1) (.list items)
  | object (depth : Nat) (fields : Fields) (distinct : (Fields.keys fields).Nodup)
      (keys : ∀ entry ∈ fields, ∀ c ∈ entry.1, Text.IsScalar c)
      (values : ∀ entry ∈ fields, IsPlain digits depth entry.2) : IsPlain digits (depth + 1) (.object fields)

theorem write_all_eq_map (style : Style) (items : List Value) :
    writeAll style items = items.map (write style) := by
  induction items with
  | nil => rfl
  | cons item items ih => rw [writeAll, ih, List.map_cons]

def writtenEntry (entry : Text × Value) : Text :=
  34 :: (entry.1.flatMap (character true) ++ 34 :: 58 :: write .segment entry.2)

theorem write_fields_eq_map (fields : Fields) :
    writeFields .segment fields = fields.map writtenEntry := by
  induction fields with
  | nil => rfl
  | cons entry fields ih =>
      have colon : Style.segment.afterKey = [58] := rfl
      have ascii : Style.segment.asciiOnly = true := rfl
      rw [writeFields, ih, List.map_cons, writtenEntry, quote, colon, ascii]
      simp only [List.append_assoc, List.cons_append, List.nil_append]

theorem write_list (items : List Value) :
    write .segment (.list items) = 91 :: (Text.join [44] (items.map (write .segment)) ++ [93]) := by
  rw [write, write_all_eq_map]
  rfl

theorem write_object (fields : Fields) :
    write .segment (.object fields) = 123 :: (Text.join [44] (fields.map writtenEntry) ++ [125]) := by
  rw [write, write_fields_eq_map]
  rfl

theorem join_cons_cons (sep first second : Text) (rest : List Text) :
    Text.join sep (first :: second :: rest) = first ++ (sep ++ Text.join sep (second :: rest)) := by
  simp [Text.join, List.intersperse]

theorem join_singleton (sep single : Text) : Text.join sep [single] = single := by
  simp [Text.join, List.intersperse]

/-- The front of a value is no blank, and nothing that would end a list or an object. -/
def StartsValue (t : Text) : Prop :=
  ∃ c tail, t = c :: tail ∧ isSpace c = false ∧ c ≠ 93 ∧ c ≠ 125

theorem StartsValue.append {t : Text} (starts : StartsValue t) (rest : Text) : StartsValue (t ++ rest) := by
  obtain ⟨c, tail, rfl, facts⟩ := starts
  exact ⟨c, tail ++ rest, rfl, facts⟩

theorem skip_space_cons {c : CodePoint} (visible : isSpace c = false) (rest : Text) :
    skipSpace (c :: rest) = c :: rest := by
  rw [skipSpace, List.dropWhile_cons, if_neg]
  rw [visible]
  decide

theorem StartsValue.skip_space {t : Text} (starts : StartsValue t) : skipSpace t = t := by
  obtain ⟨c, tail, rfl, visible, _⟩ := starts
  exact skip_space_cons visible tail

theorem starts_of_int (n : Int) : StartsValue (Text.ofInt n) := by
  obtain ⟨c, digits, digit, shape | shape⟩ := of_int_front n
  · refine ⟨c, digits, shape, ?_⟩
    simp only [Text.isAsciiDigit, Bool.and_eq_true, decide_eq_true_eq] at digit
    simp only [isSpace]
    grind
  · exact ⟨45, c :: digits, shape, by decide⟩

theorem starts_join {written : List Text} (nonempty : written ≠ [])
    (starts : ∀ t ∈ written, StartsValue t) : StartsValue (Text.join [44] written) := by
  match written with
  | [single] =>
      rw [join_singleton]
      exact starts single (List.mem_cons_self ..)
  | first :: second :: rest =>
      rw [join_cons_cons]
      exact (starts first (List.mem_cons_self ..)).append _

/-- A value reads back in front of whatever ends it, with the length of its written form as fuel. -/
structure ReadsBack (limits : Limits) (depth : Nat) (v : Value) : Prop where
  starts : StartsValue (write .segment v)
  reads : ∀ fuel rest, (write .segment v).length ≤ fuel → EndsValue rest →
    value? limits fuel depth (write .segment v ++ rest) = some (v, rest)

/-- No word begins as a number does: words have at least two characters, and no digits among them. -/
theorem word_of_number {t : Text} {c : CodePoint} (digit : Text.isAsciiDigit c = true)
    (early : c ∈ t.take 2) : word? t = none := by
  have lettered : ∀ entry ∈ words, 2 ≤ entry.1.length ∧ ∀ d ∈ entry.1, Text.isAsciiDigit d = false := by
    decide
  rw [word?, List.findSome?_eq_none_iff]
  intro entry member
  obtain ⟨long, letters⟩ := lettered entry member
  rw [if_neg]
  intro found
  obtain ⟨rest, rfl⟩ := List.isPrefixOf_iff_prefix.mp found
  rw [List.take_append_of_le_length long] at early
  have letter := letters c (List.mem_of_mem_take early)
  rw [digit] at letter
  contradiction

theorem value_of_scalar {limits : Limits} {fuel depth : Nat} {c : CodePoint} {t : Text}
    {found : Value × Text} (front : c ≠ 34 ∧ c ≠ 91 ∧ c ≠ 123)
    (read : (match word? (c :: t) with | some found => some found | none => number? limits (c :: t)) =
      some found) : value? limits (fuel + 1) depth (c :: t) = some found := by
  rw [value?]
  · exact read
  · intro rest equal
    exact front.1 (List.cons.inj equal).1
  · intro rest equal
    exact front.2.1 (List.cons.inj equal).1
  · intro rest equal
    exact front.2.2 (List.cons.inj equal).1

theorem reads_back_word {limits : Limits} {v : Value} (depth : Nat) {c : CodePoint} {word : Text}
    (shape : write .segment v = c :: word) (visible : isSpace c = false ∧ c ≠ 93 ∧ c ≠ 125)
    (front : c ≠ 34 ∧ c ≠ 91 ∧ c ≠ 123) (read : ∀ rest, word? (c :: (word ++ rest)) = some (v, rest)) :
    ReadsBack limits depth v where
  starts := ⟨c, word, shape, visible⟩
  reads := by
    intro fuel rest enough _
    rw [shape] at enough ⊢
    obtain ⟨less, rfl⟩ := Nat.exists_eq_add_of_lt enough
    rw [List.cons_append]
    apply value_of_scalar front
    rw [read]

theorem reads_back_int {limits : Limits} (depth : Nat) (n : Int)
    (fits : limits.allowsDigits (Text.ofNat n.natAbs).length = true) :
    ReadsBack limits depth (.int n) where
  starts := starts_of_int n
  reads := by
    intro fuel rest enough ends
    have number := number_of_int n fits ends
    change (Text.ofInt n).length ≤ fuel at enough
    change value? limits fuel depth (Text.ofInt n ++ rest) = some (.int n, rest)
    obtain ⟨c, digits, digit, shape | shape⟩ := of_int_front n
    · rw [shape, List.cons_append] at number ⊢
      rw [shape] at enough
      obtain ⟨less, rfl⟩ := Nat.exists_eq_add_of_lt enough
      have noWord : word? (c :: (digits ++ rest)) = none := word_of_number digit (List.mem_cons_self ..)
      apply value_of_scalar
      · refine ⟨?_, ?_, ?_⟩ <;> rintro rfl <;> exact absurd digit (by decide)
      · rw [noWord]
        exact number
    · rw [shape, List.cons_append] at number ⊢
      rw [shape] at enough
      obtain ⟨less, rfl⟩ := Nat.exists_eq_add_of_lt enough
      have noWord : word? (45 :: (c :: digits ++ rest)) = none :=
        word_of_number digit (List.mem_cons_of_mem _ (List.mem_cons_self ..))
      apply value_of_scalar
      · decide
      · rw [noWord]
        exact number

theorem reads_back_text {limits : Limits} (depth : Nat) {t : Text}
    (scalars : ∀ c ∈ t, Text.IsScalar c) : ReadsBack limits depth (.text t) where
  starts := ⟨34, _, rfl, by decide⟩
  reads := by
    intro fuel rest enough _
    have shape : write .segment (.text t) = 34 :: (t.flatMap (character true) ++ [34]) := rfl
    rw [shape] at enough ⊢
    obtain ⟨less, rfl⟩ := Nat.exists_eq_add_of_lt enough
    rw [List.cons_append, List.append_assoc, List.cons_append, List.nil_append, value?,
      quoted_written scalars]
    rfl

theorem items_last {limits : Limits} {fuel depth : Nat} {before : List Value} {item : Value}
    {t rest : Text} (read : value? limits fuel depth t = some (item, 93 :: rest)) :
    items? limits (fuel + 1) depth before t = some (.list (before.reverse ++ [item]), rest) := by
  have close : skipSpace (93 :: rest) = 93 :: rest := skip_space_cons (by decide) rest
  rw [items?, read]
  simp only [Option.bind_eq_bind, Option.bind_some, close, List.reverse_cons]

theorem items_next {limits : Limits} {fuel depth : Nat} {before : List Value} {item : Value}
    {t after : Text} (read : value? limits fuel depth t = some (item, 44 :: after))
    (starts : StartsValue after) :
    items? limits (fuel + 1) depth before t = items? limits fuel depth (item :: before) after := by
  have comma : skipSpace (44 :: after) = 44 :: after := skip_space_cons (by decide) after
  rw [items?, read]
  simp only [Option.bind_eq_bind, Option.bind_some, comma, starts.skip_space]

theorem starts_items {limits : Limits} {depth : Nat} {items : List Value} (nonempty : items ≠ [])
    (back : ∀ item ∈ items, ReadsBack limits depth item) :
    StartsValue (Text.join [44] (items.map (write .segment))) := by
  apply starts_join (by simpa using nonempty)
  intro t member
  obtain ⟨item, present, rfl⟩ := List.mem_map.mp member
  exact (back item present).starts

theorem items_of_written {limits : Limits} {depth : Nat} (items : List Value) (nonempty : items ≠ [])
    (back : ∀ item ∈ items, ReadsBack limits depth item) :
    ∀ fuel before rest, (Text.join [44] (items.map (write .segment))).length < fuel →
      items? limits fuel depth before (Text.join [44] (items.map (write .segment)) ++ 93 :: rest) =
        some (.list (before.reverse ++ items), rest) := by
  induction items with
  | nil => exact absurd rfl nonempty
  | cons item items ih =>
      -- What was read before and the fuel change from item to item, so both stay general in the hypothesis.
      intro fuel before rest enough
      obtain ⟨less, rfl⟩ : ∃ less, fuel = less + 1 := ⟨fuel - 1, by omega⟩
      have first := (back item (List.mem_cons_self ..)).reads
      cases items with
      | nil =>
          rw [List.map_cons, List.map_nil, join_singleton] at enough ⊢
          exact items_last (first less (93 :: rest) (by omega) (ends_value_cons (by decide) rest))
      | cons next items =>
          have backRest : ∀ v ∈ next :: items, ReadsBack limits depth v := fun v member =>
            back v (List.mem_cons_of_mem _ member)
          have others := ih (List.cons_ne_nil _ _) backRest
          have startsRest := starts_items (List.cons_ne_nil _ _) backRest
          rw [List.map_cons, List.map_cons, join_cons_cons, ← List.map_cons] at enough ⊢
          simp only [List.length_append, List.length_singleton] at enough
          rw [List.append_assoc, List.append_assoc, List.singleton_append,
            items_next (first less _ (by omega) (ends_value_cons (by decide) _))
              (startsRest.append _),
            others less (item :: before) rest (by omega), List.reverse_cons, List.append_assoc]
          rfl

theorem reads_back_list {limits : Limits} {depth : Nat} {items : List Value}
    (back : ∀ item ∈ items, ReadsBack limits depth item) :
    ReadsBack limits (depth + 1) (.list items) where
  starts := by
    rw [write_list]
    exact ⟨91, _, rfl, by decide⟩
  reads := by
    intro fuel rest enough _
    rw [write_list] at enough ⊢
    simp only [List.length_cons, List.length_append, List.length_nil] at enough
    obtain ⟨less, rfl⟩ : ∃ less, fuel = less + 1 := ⟨fuel - 1, by omega⟩
    rw [List.cons_append, List.append_assoc, List.singleton_append, value?]
    by_cases empty : items = []
    · subst empty
      have close : skipSpace (93 :: rest) = 93 :: rest := skip_space_cons (by decide) rest
      have nothing : Text.join [44] (List.map (write .segment) []) ++ 93 :: rest = 93 :: rest := rfl
      rw [nothing, close]
      rfl
    · have starts := (starts_items empty back).append (93 :: rest)
      rw [starts.skip_space]
      obtain ⟨c, tail, shape, _, noBracket, _⟩ := starts
      split
      · next after equal =>
          rw [shape, List.cons.injEq] at equal
          exact absurd equal.1 noBracket
      · exact items_of_written items empty back less [] rest (by omega)

theorem insert_new {before : Fields} {key : Text} (value : Value) (absent : key ∉ Fields.keys before) :
    Fields.insert before key value = before ++ [(key, value)] := by
  induction before with
  | nil => rfl
  | cons entry before ih =>
      obtain ⟨k, v⟩ := entry
      simp only [Fields.keys, List.map_cons, List.mem_cons, not_or] at absent
      have other : ¬k = key := fun equal => absent.1 equal.symm
      rw [Fields.insert, if_neg other, ih absent.2]
      rfl

theorem starts_entry (entry : Text × Value) : StartsValue (writtenEntry entry) :=
  ⟨34, _, rfl, by decide⟩

theorem members_entry {limits : Limits} {fuel depth : Nat} {before : Fields} {entry : Text × Value}
    {rest : Text} (scalars : ∀ c ∈ entry.1, Text.IsScalar c) (back : ReadsBack limits depth entry.2)
    (enough : (writtenEntry entry).length ≤ fuel) (ends : EndsValue rest) :
    members? limits (fuel + 1) depth before (writtenEntry entry ++ rest) =
      (match skipSpace rest with
        | 125 :: after => some (.object (Fields.insert before entry.1 entry.2), after)
        | 44 :: after =>
            members? limits fuel depth (Fields.insert before entry.1 entry.2) (skipSpace after)
        | _ => none) := by
  have colon : ∀ tail, skipSpace (58 :: tail) = 58 :: tail := fun tail =>
    skip_space_cons (by decide) tail
  have starts := back.starts.append rest
  have shorter : (write .segment entry.2).length ≤ fuel := by
    simp only [writtenEntry, List.length_cons, List.length_append] at enough
    omega
  rw [writtenEntry, List.cons_append, List.append_assoc, List.cons_append, List.cons_append, members?,
    quoted_written scalars]
  simp only [Option.bind_eq_bind, Option.bind_some, colon, starts.skip_space]
  rw [back.reads fuel rest shorter ends]
  rfl

theorem starts_entries {fields : Fields} (nonempty : fields ≠ []) :
    StartsValue (Text.join [44] (fields.map writtenEntry)) := by
  apply starts_join (by simpa using nonempty)
  intro t member
  obtain ⟨entry, _, rfl⟩ := List.mem_map.mp member
  exact starts_entry entry

/-- Entries read back one after another behind those that were read before, where no two keys agree. -/
theorem members_of_written {limits : Limits} {depth : Nat} (fields : Fields) (nonempty : fields ≠ [])
    (scalars : ∀ entry ∈ fields, ∀ c ∈ entry.1, Text.IsScalar c)
    (back : ∀ entry ∈ fields, ReadsBack limits depth entry.2) :
    ∀ fuel before rest, (Fields.keys (before ++ fields)).Nodup →
      (Text.join [44] (fields.map writtenEntry)).length < fuel →
      members? limits fuel depth before (Text.join [44] (fields.map writtenEntry) ++ 125 :: rest) =
        some (.object (before ++ fields), rest) := by
  induction fields with
  | nil => exact absurd rfl nonempty
  | cons entry fields ih =>
      intro fuel before rest distinct enough
      obtain ⟨less, rfl⟩ : ∃ less, fuel = less + 1 := ⟨fuel - 1, by omega⟩
      have firstScalars := scalars entry (List.mem_cons_self ..)
      have firstBack := back entry (List.mem_cons_self ..)
      have absent : entry.1 ∉ Fields.keys before := by
        intro member
        simp only [Fields.keys, List.map_append, List.map_cons, List.nodup_append] at distinct member
        exact distinct.2.2 _ member _ (List.mem_cons_self ..) rfl
      have inserted := insert_new entry.2 absent
      cases fields with
      | nil =>
          have close : skipSpace (125 :: rest) = 125 :: rest := skip_space_cons (by decide) rest
          rw [List.map_cons, List.map_nil, join_singleton] at enough ⊢
          rw [members_entry firstScalars firstBack (by omega) (ends_value_cons (by decide) rest), close,
            inserted]
          rfl
      | cons next fields =>
          have others := ih (List.cons_ne_nil _ _)
            (fun e member => scalars e (List.mem_cons_of_mem _ member))
            (fun e member => back e (List.mem_cons_of_mem _ member))
          have starts := starts_entries (List.cons_ne_nil next fields)
          have comma : ∀ tail, skipSpace (44 :: tail) = 44 :: tail := fun tail =>
            skip_space_cons (by decide) tail
          have grouped : before ++ entry :: next :: fields = (before ++ [entry]) ++ next :: fields := by
            rw [List.append_assoc, List.singleton_append]
          rw [grouped] at distinct ⊢
          rw [List.map_cons, List.map_cons, join_cons_cons, ← List.map_cons] at enough ⊢
          simp only [List.length_append, List.length_singleton] at enough
          rw [List.append_assoc, List.append_assoc, List.singleton_append,
            members_entry firstScalars firstBack (by omega) (ends_value_cons (by decide) _), comma,
            inserted]
          simp only [(starts.append (125 :: rest)).skip_space]
          exact others less (before ++ [entry]) rest distinct (by omega)

theorem reads_back_object {limits : Limits} {depth : Nat} {fields : Fields}
    (distinct : (Fields.keys fields).Nodup)
    (scalars : ∀ entry ∈ fields, ∀ c ∈ entry.1, Text.IsScalar c)
    (back : ∀ entry ∈ fields, ReadsBack limits depth entry.2) :
    ReadsBack limits (depth + 1) (.object fields) where
  starts := by
    rw [write_object]
    exact ⟨123, _, rfl, by decide⟩
  reads := by
    intro fuel rest enough _
    rw [write_object] at enough ⊢
    simp only [List.length_cons, List.length_append, List.length_nil] at enough
    obtain ⟨less, rfl⟩ : ∃ less, fuel = less + 1 := ⟨fuel - 1, by omega⟩
    rw [List.cons_append, List.append_assoc, List.singleton_append, value?]
    by_cases empty : fields = []
    · subst empty
      have close : skipSpace (125 :: rest) = 125 :: rest := skip_space_cons (by decide) rest
      have nothing : Text.join [44] (List.map writtenEntry []) ++ 125 :: rest = 125 :: rest := rfl
      rw [nothing, close]
      rfl
    · have starts := (starts_entries empty).append (125 :: rest)
      rw [starts.skip_space]
      obtain ⟨c, tail, shape, _, _, noBrace⟩ := starts
      split
      · next after equal =>
          rw [shape, List.cons.injEq] at equal
          exact absurd equal.1 noBrace
      · exact members_of_written fields empty scalars back less [] rest distinct (by omega)

theorem reads_back_plain {limits : Limits} {digits depth : Nat} {v : Value}
    (limited : limits.digits = some digits) (positive : 0 < digits) (plain : IsPlain digits depth v) :
    ReadsBack limits depth v := by
  -- Over the derivation and not the value: it carries the depth, which falls by one at each collection.
  induction plain with
  | null depth => exact reads_back_word depth rfl (by decide) (by decide) fun _ => rfl
  | bool depth b =>
      cases b with
      | false => exact reads_back_word depth rfl (by decide) (by decide) fun _ => rfl
      | true => exact reads_back_word depth rfl (by decide) (by decide) fun _ => rfl
  | int depth n size =>
      apply reads_back_int
      rw [Limits.allowsDigits, limited]
      exact decide_eq_true (Text.length_of_nat_le positive size)
  | text depth t scalars => exact reads_back_text depth scalars
  | list depth items members ih => exact reads_back_list ih
  | object depth fields distinct keys values ih => exact reads_back_object distinct keys ih

theorem read_write {limits : Limits} {digits : Nat} {v : Value} (limited : limits.digits = some digits)
    (positive : 0 < digits) (plain : IsPlain digits limits.depth v) :
    read limits (write .segment v) = some v := by
  have back := reads_back_plain limited positive plain
  have whole := back.reads (2 * (write .segment v).length + 2) [] (by omega) ends_value_nil
  rw [List.append_nil] at whole
  rw [read, back.starts.skip_space, whole]
  rfl

end BearerRole.Json
