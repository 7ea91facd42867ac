import BearerRole.Text.Blank
import Mathlib.Data.List.Basic
import Mathlib.Data.List.TakeWhile

/-!
Cutting a text at a separator is the inverse of writing the separator between two parts. The part on the
searched side is the one without a separator in it, which makes the parts unique. A text without blanks is
its own trimmed form.
-/

namespace BearerRole.Text

set_option autoImplicit false

theorem cut_eq_some_iff (sep : CodePoint) (t before after : Text) :
    cut sep t = some (before, after) ↔ t = before ++ sep :: after ∧ sep ∉ before := by
  induction t generalizing before with
  | nil => simp [cut]
  | cons c rest ih =>
      by_cases same : c = sep
      · subst same
        cases before with
        | nil => simp [cut, eq_comm]
        | cons b before =>
            simp only [cut, if_true, Option.some.injEq, Prod.mk.injEq, List.cons_append,
              List.cons.injEq, List.mem_cons]
            constructor
            · intro equal
              exact absurd equal.1 (by simp)
            · intro facts
              rcases facts with ⟨⟨first, _⟩, absent⟩
              exact absurd (Or.inl first) absent
      · simp only [cut, if_neg same, Option.map_eq_some_iff, Prod.exists, Prod.mk.injEq]
        constructor
        · intro facts
          rcases facts with ⟨inner, tail, found, rfl, rfl⟩
          obtain ⟨whole, absent⟩ := (ih inner).mp found
          refine ⟨by rw [whole]; rfl, ?_⟩
          simp only [List.mem_cons, not_or]
          exact ⟨fun equal => same equal.symm, absent⟩
        · intro facts
          rcases facts with ⟨whole, absent⟩
          cases before with
          | nil =>
              rw [List.nil_append, List.cons.injEq] at whole
              exact absurd whole.1 same
          | cons b before =>
              rw [List.cons_append, List.cons.injEq] at whole
              have absentBefore : sep ∉ before := fun member => absent (List.mem_cons_of_mem _ member)
              exact ⟨before, after, (ih before).mpr ⟨whole.2, absentBefore⟩, by rw [whole.1], rfl⟩

theorem cut_last_eq_some_iff (sep : CodePoint) (t before after : Text) :
    cutLast sep t = some (before, after) ↔ t = before ++ sep :: after ∧ sep ∉ after := by
  simp only [cutLast, Option.map_eq_some_iff, Prod.exists, Prod.mk.injEq, cut_eq_some_iff]
  constructor
  · intro facts
    rcases facts with ⟨front, back, ⟨whole, absent⟩, rfl, rfl⟩
    have forward := congrArg List.reverse whole
    simp only [List.reverse_reverse, List.reverse_append, List.reverse_cons,
      List.append_assoc] at forward
    exact ⟨forward, by rwa [List.mem_reverse]⟩
  · intro facts
    rcases facts with ⟨whole, absent⟩
    refine ⟨after.reverse, before.reverse, ⟨?_, by rwa [List.mem_reverse]⟩, ?_, ?_⟩
    · rw [whole, List.reverse_append, List.reverse_cons, List.append_assoc]
      rfl
    · exact List.reverse_reverse before
    · exact List.reverse_reverse after

theorem split_ne_nil (sep : CodePoint) (t : Text) : split sep t ≠ [] := by
  cases t with
  | nil => exact List.cons_ne_nil _ _
  | cons c rest =>
      rw [split]
      split
      · exact List.cons_ne_nil _ _
      · split <;> exact List.cons_ne_nil _ _

theorem split_cons_sep (sep : CodePoint) (t : Text) : split sep (sep :: t) = [] :: split sep t := by
  rw [split, if_pos rfl]

theorem split_cons_of_ne {sep c : CodePoint} (other : c ≠ sep) {t first : Text} {rest : List Text}
    (parts : split sep t = first :: rest) : split sep (c :: t) = (c :: first) :: rest := by
  rw [split, if_neg other, parts]

theorem split_append (sep : CodePoint) (before after : Text) :
    split sep (before ++ sep :: after) = split sep before ++ split sep after := by
  induction before with
  | nil => exact split_cons_sep sep after
  | cons c before ih =>
      by_cases same : c = sep
      · subst same
        rw [List.cons_append, split_cons_sep, ih, split_cons_sep, List.cons_append]
      · cases parts : split sep before with
        | nil => exact absurd parts (split_ne_nil sep before)
        | cons first rest =>
            rw [parts, List.cons_append] at ih
            rw [List.cons_append, split_cons_of_ne same ih, split_cons_of_ne same parts, List.cons_append]

theorem sep_not_mem_of_split {sep : CodePoint} {t part : Text} (member : part ∈ split sep t) : sep ∉ part := by
  induction t generalizing part with
  | nil =>
      rw [List.mem_singleton.mp member]
      exact List.not_mem_nil
  | cons c t ih =>
      by_cases same : c = sep
      · subst same
        rw [split_cons_sep] at member
        rcases List.mem_cons.mp member with rfl | later
        · exact List.not_mem_nil
        · exact ih later
      · cases parts : split sep t with
        | nil => exact absurd parts (split_ne_nil sep t)
        | cons first rest =>
            rw [split_cons_of_ne same parts] at member
            rw [parts] at ih
            rcases List.mem_cons.mp member with rfl | later
            · have absent : sep ∉ first := ih (List.mem_cons_self ..)
              simp only [List.mem_cons, not_or]
              exact ⟨fun equal => same equal.symm, absent⟩
            · exact ih (List.mem_cons_of_mem _ later)

theorem drop_while_eq_self {p : CodePoint → Bool} {t : Text} (none : ∀ c ∈ t, p c = false) :
    t.dropWhile p = t := by
  cases t with
  | nil => rfl
  | cons c rest =>
      have first : p c = false := none c (List.mem_cons_self ..)
      simp [first]

theorem trim_eq_self {t : Text} (visible : ∀ c ∈ t, isBlank c = false) : trim t = t := by
  have reversed : ∀ c ∈ t.reverse, isBlank c = false := by
    intro c member
    exact visible c (List.mem_reverse.mp member)
  rw [trim, trimOf, trimStartOf, drop_while_eq_self visible, trimEndOf, drop_while_eq_self reversed,
    List.reverse_reverse]

theorem drop_while_all_iff {p : CodePoint → Bool} {t : Text} :
    (∀ c ∈ t.dropWhile p, p c = true) ↔ ∀ c ∈ t, p c = true := by
  constructor
  · intro rest c member
    rw [← List.takeWhile_append_dropWhile (p := p) (l := t), List.mem_append] at member
    rcases member with front | back
    · exact List.mem_takeWhile_imp front
    · exact rest c back
  · intro all c member
    exact all c ((List.dropWhile_sublist p).subset member)

theorem trim_eq_nil_iff {t : Text} : trim t = [] ↔ isBlankText t = true := by
  rw [trim, trimOf, trimEndOf, List.reverse_eq_nil_iff, List.dropWhile_eq_nil_iff, isBlankText, List.all_eq_true]
  simp only [List.mem_reverse, trimStartOf]
  exact drop_while_all_iff

end BearerRole.Text
