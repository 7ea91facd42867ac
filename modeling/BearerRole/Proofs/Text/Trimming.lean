import BearerRole.Proofs.Text.Cutting
import Mathlib.Data.List.DropRight

/-!
What trimming leaves. A text is its trimmed form with blanks around it, and of its parts with blanks around them only one has no
blank at an end; so blanks that are put around a text do not show in its trimmed form.
-/

namespace BearerRole.Text

set_option autoImplicit false

/-- No blank stands at either end. The empty text has no ends. -/
structure IsBare (t : Text) : Prop where
  first : ∀ c ∈ t.head?, isBlank c = false
  last : ∀ c ∈ t.getLast?, isBlank c = false

theorem trim_end_eq (p : CodePoint → Bool) (t : Text) : trimEndOf p t = t.rdropWhile p := rfl

theorem trim_start_blank {before : Text} (blank : isBlankText before = true) (t : Text) :
    trimStartOf isBlank (before ++ t) = trimStartOf isBlank t :=
  List.dropWhile_append_of_pos (List.all_eq_true.mp blank)

theorem trim_end_blank {after : Text} (blank : isBlankText after = true) (t : Text) :
    trimEndOf isBlank (t ++ after) = trimEndOf isBlank t := by
  have reversed : ∀ c ∈ after.reverse, isBlank c = true := by
    intro c member
    exact List.all_eq_true.mp blank c (List.mem_reverse.mp member)
  rw [trimEndOf, List.reverse_append, List.dropWhile_append_of_pos reversed, trimEndOf]

theorem trim_start_bare {t : Text} (bare : IsBare t) : trimStartOf isBlank t = t := by
  cases t with
  | nil => rfl
  | cons c rest =>
      have visible : isBlank c = false := bare.first c rfl
      rw [trimStartOf, List.dropWhile_cons_of_neg (by rw [visible]; exact Bool.false_ne_true)]

theorem trim_end_bare {t : Text} (bare : IsBare t) : trimEndOf isBlank t = t := by
  rw [trim_end_eq, List.rdropWhile_eq_self_iff]
  intro nonempty blank
  have visible := bare.last _ (List.getLast?_eq_some_getLast nonempty)
  rw [blank] at visible
  cases visible

theorem IsBare.trim_eq {t : Text} (bare : IsBare t) : trim t = t := by
  rw [trim, trimOf, trim_start_bare bare, trim_end_bare bare]

theorem trim_padded {before after : Text} (start : isBlankText before = true) (finish : isBlankText after = true) (t : Text) :
    trim (before ++ t ++ after) = trim t := by
  rw [trim, trimOf, List.append_assoc, trim_start_blank start, trim, trimOf]
  simp only [trimStartOf, List.dropWhile_append]
  split
  · next gone =>
      -- All of the text is blank, and so is what follows it.
      rw [List.isEmpty_iff.mp gone, List.dropWhile_eq_nil_iff.mpr (List.all_eq_true.mp finish)]
  · exact trim_end_blank finish _

theorem trim_bare (t : Text) : IsBare (trim t) := by
  constructor
  · intro c first
    -- What is left at the end keeps the beginning, which is that of the text without the blanks before it.
    obtain ⟨rest, whole⟩ : trim t <+: trimStartOf isBlank t := List.rdropWhile_prefix isBlank _
    have kept : (trimStartOf isBlank t).head? = some c := by
      rw [← whole, List.head?_append, first]
      rfl
    have visible := List.head?_dropWhile_not isBlank t
    rw [← trimStartOf, kept] at visible
    exact visible
  · intro c last
    have nonempty : trim t ≠ [] := by
      intro empty
      rw [empty] at last
      cases last
    have visible := List.rdropWhile_last_not isBlank (trimStartOf isBlank t) nonempty
    rw [Option.mem_def, List.getLast?_eq_some_getLast nonempty, Option.some.injEq] at last
    rw [← last]
    exact Bool.eq_false_iff.mpr visible

theorem exists_padding (t : Text) :
    ∃ before after, isBlankText before = true ∧ isBlankText after = true ∧ t = before ++ trim t ++ after := by
  refine ⟨t.takeWhile isBlank, (trimStartOf isBlank t).rtakeWhile isBlank, ?_, ?_, ?_⟩
  · exact List.all_eq_true.mpr fun c member => List.mem_takeWhile_imp member
  · exact List.all_eq_true.mpr fun c member => List.mem_rtakeWhile_imp member
  · calc
      t = t.takeWhile isBlank ++ trimStartOf isBlank t := (List.takeWhile_append_dropWhile ..).symm
      _ = t.takeWhile isBlank ++ (trim t ++ (trimStartOf isBlank t).rtakeWhile isBlank) := by
        rw [trim, trimOf, trim_end_eq, List.rdropWhile_append_rtakeWhile]
      _ = t.takeWhile isBlank ++ trim t ++ (trimStartOf isBlank t).rtakeWhile isBlank := by rw [List.append_assoc]

theorem trim_eq_iff {t core : Text} :
    trim t = core ↔
      IsBare core ∧ ∃ before after, isBlankText before = true ∧ isBlankText after = true ∧ t = before ++ core ++ after := by
  constructor
  · rintro rfl
    exact ⟨trim_bare t, exists_padding t⟩
  · rintro ⟨bare, before, after, start, finish, rfl⟩
    rw [trim_padded start finish, bare.trim_eq]

end BearerRole.Text
