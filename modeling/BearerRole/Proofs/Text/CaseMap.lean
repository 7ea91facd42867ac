import BearerRole.Text.Fold
import BearerRole.Text.Lower
import Mathlib.Data.List.Basic
import Mathlib.Data.Nat.Bitwise

/-!
What case maps do, read off their tables. Folding a folded text changes nothing, since no image of the mapping is moved again. And
a word is reached only from its own letters and their capitals, as long as it has none of the few letters with other sources: an
`f`, a `k` or an `s`.
-/

namespace BearerRole.Text

set_option autoImplicit false

/-- Some code points as one number, in which bit `c` stands for the code point `c`. Two large sets are compared in one step. -/
def bits : List CodePoint → Nat
  | [] => 0
  | c :: rest => bits rest ||| 1 <<< c

theorem test_bit_of_mem {cs : List CodePoint} {c : CodePoint} (member : c ∈ cs) : (bits cs).testBit c = true := by
  induction cs with
  | nil => contradiction
  | cons first rest ih =>
      rw [bits, Nat.testBit_or, Bool.or_eq_true]
      rcases List.mem_cons.mp member with rfl | later
      · exact .inr (by simp [Nat.testBit_shiftLeft])
      · exact .inl (ih later)

theorem not_mem_of_bits {cs others : List CodePoint} (apart : bits cs &&& bits others = 0) {c : CodePoint}
    (member : c ∈ cs) : c ∉ others := by
  intro other
  have both : (bits cs &&& bits others).testBit c = true := by
    rw [Nat.testBit_and, test_bit_of_mem member, test_bit_of_mem other]
    rfl
  rw [apart, Nat.zero_testBit] at both
  contradiction

def CaseRun.sources (run : CaseRun) : List CodePoint :=
  (List.range ((run.last - run.first) / run.stride + 1)).map fun step => run.first + run.stride * step

theorem CaseRun.covers_iff {run : CaseRun} {c : CodePoint} :
    run.covers c = true ↔ run.first ≤ c ∧ c ≤ run.last ∧ (c - run.first) % run.stride = 0 := by
  simp only [CaseRun.covers, Bool.and_eq_true, decide_eq_true_eq, beq_iff_eq, and_assoc]

theorem CaseRun.mem_sources {run : CaseRun} {c : CodePoint} (covers : run.covers c = true) : c ∈ run.sources := by
  obtain ⟨first, last, even⟩ := covers_iff.mp covers
  refine List.mem_map.mpr ⟨(c - run.first) / run.stride, List.mem_range.mpr ?_, ?_⟩
  · exact Nat.lt_succ_of_le (Nat.div_le_div_right (Nat.sub_le_sub_right last _))
  · have whole := Nat.div_add_mod (c - run.first) run.stride
    rw [even, Nat.add_zero] at whole
    rw [whole, Nat.add_sub_cancel' first]

namespace CaseMap

variable (m : CaseMap)

def sources : List CodePoint := m.expansions.map Prod.fst ++ m.runs.flatMap CaseRun.sources

def images : List CodePoint :=
  m.expansions.flatMap Prod.snd ++ m.runs.flatMap fun run => run.sources.map fun c => run.image + (c - run.first)

/-- A code point becomes what its expansion says, or moves with a run, or stays. -/
theorem point_cases (c : CodePoint) :
    (∃ entry ∈ m.expansions, m.point c = entry.2) ∨
      (∃ run ∈ m.runs, run.covers c = true ∧ m.point c = [run.image + (c - run.first)]) ∨ m.point c = [c] := by
  unfold point
  cases expanded : m.expansions.lookup c with
  | some image =>
      obtain ⟨before, after, whole, _⟩ := List.lookup_eq_some_iff.mp expanded
      exact .inl ⟨(c, image), by simp [whole], rfl⟩
  | none =>
      cases found : m.runs.find? (·.covers c) with
      | some run =>
          have covers := List.find?_some found
          exact .inr (.inl ⟨run, List.mem_of_find?_eq_some found, covers, rfl⟩)
      | none => exact .inr (.inr rfl)

variable {m}

theorem point_of_not_source {c : CodePoint} (stays : c ∉ m.sources) : m.point c = [c] := by
  rw [sources, List.mem_append, not_or] at stays
  obtain ⟨unexpanded, uncovered⟩ := stays
  have noEntry : m.expansions.lookup c = none := by
    rw [List.lookup_eq_none_iff]
    intro entry member
    rw [bne_iff_ne]
    rintro rfl
    exact unexpanded (List.mem_map_of_mem member)
  have noRun : m.runs.find? (·.covers c) = none := by
    rw [List.find?_eq_none]
    intro run member covers
    exact uncovered (List.mem_flatMap.mpr ⟨run, member, CaseRun.mem_sources covers⟩)
  simp only [point, noEntry, noRun]

theorem mem_images {c d : CodePoint} (member : d ∈ m.point c) : d ∈ m.images ∨ m.point c = [c] := by
  rw [images, List.mem_append]
  rcases m.point_cases c with ⟨entry, inside, image⟩ | ⟨run, inside, covers, image⟩ | same
  · rw [image] at member
    exact .inl (.inl (List.mem_flatMap.mpr ⟨entry, inside, member⟩))
  · rw [image, List.mem_singleton] at member
    subst member
    exact .inl (.inr (List.mem_flatMap.mpr ⟨run, inside, List.mem_map_of_mem (CaseRun.mem_sources covers)⟩))
  · exact .inr same

theorem apply_apply (apart : bits m.images &&& bits m.sources = 0) (t : Text) : m.apply (m.apply t) = m.apply t := by
  have settled : ∀ c, (m.point c).flatMap m.point = m.point c := by
    intro c
    -- What a code point becomes is an image, and no source, or else the code point itself.
    have stays : ∀ d ∈ m.point c, m.point d = [d] := by
      intro d member
      rcases mem_images member with image | same
      · exact point_of_not_source (not_mem_of_bits apart image)
      · rw [same, List.mem_singleton] at member
        rw [member, same]
    rw [List.flatMap_congr stays, List.flatMap_singleton']
  rw [apply, apply, List.flatMap_assoc, List.flatMap_congr fun c _ => settled c]

end CaseMap

theorem fold_fold (t : Text) : fold (fold t) = fold t := CaseMap.apply_apply (by decide +kernel) t

namespace CaseMap

/-- Letters that are reached only from themselves and their capitals. An expansion is out of the question for a part of a word in
such letters, because it has something else in it; and the only run to one of them is that of the ASCII capitals. -/
structure IsPlainOn (m : CaseMap) (letters : Text) : Prop where
  small : ∀ letter ∈ letters, m.point letter = [letter]
  capital : ∀ letter ∈ letters, m.point (letter - 32) = [letter]
  expansions : ∀ entry ∈ m.expansions, ∃ c ∈ entry.2, c ∉ letters
  runs : ∀ run ∈ m.runs, ∀ letter ∈ letters, run.image ≤ letter → letter ≤ run.image + (run.last - run.first) →
    run.image = run.first + 32

def IsCaseOf (letter c : CodePoint) : Prop := c = letter ∨ c + 32 = letter

variable {m : CaseMap} {letters : Text}

theorem IsPlainOn.point_of_case (plain : m.IsPlainOn letters) {letter c : CodePoint} (inside : letter ∈ letters)
    (same : IsCaseOf letter c) : m.point c = [letter] := by
  rcases same with rfl | capital
  · exact plain.small c inside
  · rw [Nat.eq_sub_of_add_eq capital]
    exact plain.capital letter inside

theorem IsPlainOn.case_of_point (plain : m.IsPlainOn letters) {c : CodePoint} (inside : ∀ d ∈ m.point c, d ∈ letters) :
    ∃ letter, m.point c = [letter] ∧ IsCaseOf letter c := by
  rcases m.point_cases c with ⟨entry, member, image⟩ | ⟨run, member, covers, image⟩ | same
  · obtain ⟨other, among, outside⟩ := plain.expansions entry member
    rw [← image] at among
    exact absurd (inside other among) outside
  -- The run may have been met in the middle, but it moves all its code points by the same distance.
  · have reached : run.image + (c - run.first) ∈ letters := inside _ (by simp [image])
    obtain ⟨first, last, _⟩ := CaseRun.covers_iff.mp covers
    have shift : run.image = run.first + 32 := plain.runs run member _ reached (Nat.le_add_right _ _)
      (Nat.add_le_add_left (Nat.sub_le_sub_right last _) _)
    have capital : c + 32 = run.image + (c - run.first) := by
      rw [shift, Nat.add_right_comm, Nat.add_sub_cancel' first]
    exact ⟨_, image, .inr capital⟩
  · exact ⟨c, same, .inl rfl⟩

end CaseMap

def IsCaseVariant (word t : Text) : Prop := List.Forall₂ CaseMap.IsCaseOf word t

instance (word t : Text) : Decidable (IsCaseVariant word t) :=
  inferInstanceAs (Decidable (List.Forall₂ (fun letter c => c = letter ∨ c + 32 = letter) word t))

/-- A map takes to a word in such letters the mixtures of cases of the word, and nothing else. -/
theorem CaseMap.IsPlainOn.apply_eq_iff {m : CaseMap} {letters word : Text} (plain : m.IsPlainOn letters)
    (inside : ∀ letter ∈ word, letter ∈ letters) {t : Text} : m.apply t = word ↔ IsCaseVariant word t := by
  constructor
  · intro made
    -- The letters of the rest of a word are still among the given ones, and so the induction is on the text for every word.
    induction t generalizing word with
    | nil =>
        subst made
        exact .nil
    | cons c t ih =>
        rw [apply, List.flatMap_cons] at made
        subst made
        have first : ∀ d ∈ m.point c, d ∈ letters := fun d member => inside d (List.mem_append_left _ member)
        obtain ⟨letter, image, same⟩ := plain.case_of_point first
        rw [image]
        exact .cons same (ih (fun d member => inside d (List.mem_append_right _ member)) rfl)
  · intro variant
    induction variant with
    | nil => rfl
    | cons same rest ih =>
        have image := plain.point_of_case (inside _ (List.mem_cons_self ..)) same
        have later := ih fun letter member => inside letter (List.mem_cons_of_mem _ member)
        rw [apply] at later
        rw [apply, List.flatMap_cons, image, later]
        rfl

/-- All ASCII letters but `f`, `k` and `s`, which ligatures, the kelvin sign and the long s are mapped to. -/
def plainLetters : Text := text "abcdeghijlmnopqrtuvwxyz"

theorem fold_plain : foldMap.IsPlainOn plainLetters :=
  ⟨by decide +kernel, by decide +kernel, by decide +kernel, by decide +kernel⟩

theorem lower_plain : lowerMap.IsPlainOn plainLetters :=
  ⟨by decide +kernel, by decide +kernel, by decide +kernel, by decide +kernel⟩

end BearerRole.Text
