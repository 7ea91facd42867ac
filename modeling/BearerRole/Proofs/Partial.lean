import Mathlib.Data.List.Forall2

/-!
Steps that may give no result: one after another, and one for each item of a list, where a single failure spoils
the whole.
-/

namespace BearerRole

set_option autoImplicit false

variable {α β : Type}

theorem bind_eq_ok_iff {ε : Type} {x : Except ε α} {f : α → Except ε β} {b : β} :
    (x >>= f) = .ok b ↔ ∃ a, x = .ok a ∧ f a = .ok b := by
  cases x with
  | error e =>
      constructor
      · intro failed
        cases failed
      · intro facts
        rcases facts with ⟨a, found, _⟩
        cases found
  | ok a =>
      constructor
      · intro passed
        exact ⟨a, rfl, passed⟩
      · intro facts
        rcases facts with ⟨c, found, passed⟩
        rw [Except.ok.inj found]
        exact passed

theorem check_bind_eq_ok_iff {ε : Type} {x : Except ε Unit} {f : Unit → Except ε β} {b : β} :
    (x >>= f) = .ok b ↔ x = .ok () ∧ f () = .ok b := by
  rw [bind_eq_ok_iff]
  constructor
  · intro facts
    rcases facts with ⟨⟨⟩, passed, rest⟩
    exact ⟨passed, rest⟩
  · intro facts
    rcases facts with ⟨passed, rest⟩
    exact ⟨(), passed, rest⟩

theorem map_eq_ok_iff {ε : Type} {x : Except ε α} {f : α → β} {b : β} :
    x.map f = .ok b ↔ ∃ a, x = .ok a ∧ b = f a := by
  cases x with
  | error e => simp [Except.map]
  | ok a => simp [Except.map, eq_comm]

theorem map_eq_error_iff {ε : Type} {x : Except ε α} {f : α → β} {e : ε} :
    x.map f = .error e ↔ x = .error e := by
  cases x <;> simp [Except.map]

theorem ok_bind {ε : Type} (a : α) (f : α → Except ε β) : (Except.ok a >>= f) = f a := rfl

theorem bind_ok_unit {ε : Type} (x : Except ε Unit) : (x >>= fun _ => .ok ()) = x := by
  cases x <;> rfl

theorem error_bind {ε : Type} (e : ε) (f : α → Except ε β) : (Except.error e >>= f) = .error e := rfl

theorem bind_eq_error_iff {ε : Type} {x : Except ε α} {f : α → Except ε β} {e : ε} :
    (x >>= f) = .error e ↔ x = .error e ∨ ∃ a, x = .ok a ∧ f a = .error e := by
  cases x with
  | error first => simp [error_bind]
  | ok a => simp [ok_bind]

theorem mapped_bind {γ ε : Type} (x : Except ε α) (f : α → Except ε β) (g : β → γ) :
    (x >>= f).map g = x >>= fun a => (f a).map g := by
  cases x <;> rfl

theorem mapped_guard {ε : Type} (stops : Prop) [Decidable stops] (fault : ε) (x : Except ε α) (f : α → β) :
    (if stops then .error fault else x).map f = if stops then .error fault else x.map f := by
  split <;> rfl

theorem to_option_eq_some_iff {ε : Type} {x : Except ε α} {a : α} : x.toOption = some a ↔ x = .ok a := by
  cases x with
  | error e =>
      constructor
      · intro failed
        cases failed
      · intro failed
        cases failed
  | ok b => exact ⟨fun same => congrArg _ (Option.some.inj same), fun same => congrArg _ (Except.ok.inj same)⟩

theorem map_m_eq_some_iff (read : α → Option β) (items : List α) (results : List β) :
    items.mapM read = some results ↔ List.Forall₂ (fun item result => read item = some result) items results := by
  induction items generalizing results with
  | nil =>
      rw [List.mapM_nil, List.forall₂_nil_left_iff]
      exact ⟨fun equal => (Option.some.inj equal).symm, fun equal => by rw [equal]; rfl⟩
  | cons item items ih =>
      simp only [List.mapM_cons, Option.bind_eq_bind, Option.bind_eq_some_iff, ih,
        List.forall₂_cons_left_iff, Option.pure_def, Option.some.injEq]
      constructor
      · intro facts
        rcases facts with ⟨result, first, rest, later, rfl⟩
        exact ⟨result, rest, first, later, rfl⟩
      · intro facts
        rcases facts with ⟨result, rest, first, later, rfl⟩
        exact ⟨result, first, rest, later, rfl⟩

theorem mem_of_map_m_eq_error {ε : Type} {read : α → Except ε β} {items : List α} {e : ε}
    (failed : items.mapM read = .error e) : ∃ item ∈ items, read item = .error e := by
  induction items with
  | nil => cases failed
  | cons item items ih =>
      rw [List.mapM_cons] at failed
      rcases bind_eq_error_iff.mp failed with first | ⟨_, _, failed⟩
      · exact ⟨item, List.mem_cons_self, first⟩
      · rcases bind_eq_error_iff.mp failed with later | ⟨_, _, failed⟩
        · obtain ⟨other, member, fails⟩ := ih later
          exact ⟨other, List.mem_cons_of_mem item member, fails⟩
        · cases failed

theorem read_of_mem {read : α → Option β} {items : List α} {results : List β}
    (all : items.mapM read = some results) : ∀ item ∈ items, ∃ result, read item = some result := by
  rw [map_m_eq_some_iff] at all
  intro item member
  induction all with
  | nil => simp at member
  | cons first _ ih =>
      rcases List.mem_cons.mp member with rfl | later
      · exact ⟨_, first⟩
      · exact ih later

end BearerRole
