import BearerRole.Proofs.Partial
import BearerRole.Session

/-!
Sessions step after step. A run is cut at any place into the run up to it and the run of the session that stands there,
so what one step keeps is kept by every run of such steps.
-/

namespace BearerRole.Session

set_option autoImplicit false

def after (s : Session) (steps : List Step) : Session := steps.foldl (fun s step => (s.step step).1) s

@[simp]
theorem after_nil (s : Session) : s.after [] = s := rfl

@[simp]
theorem after_cons (s : Session) (step : Step) (steps : List Step) :
    s.after (step :: steps) = (s.step step).1.after steps := rfl

theorem after_append (s : Session) (before later : List Step) :
    s.after (before ++ later) = (s.after before).after later := by
  unfold after
  exact List.foldl_append

@[simp]
theorem run_cons (s : Session) (step : Step) (steps : List Step) :
    s.run (step :: steps) = (s.step step).2 :: (s.step step).1.run steps := rfl

theorem run_append (s : Session) (before later : List Step) :
    s.run (before ++ later) = s.run before ++ (s.after before).run later := by
  induction before generalizing s with
  | nil => rfl
  | cons step before ih =>
      rw [List.cons_append, run_cons, run_cons, List.cons_append, after_cons, ih]

theorem invariant_after {holds : Session → Prop} (allowed : Step → Prop)
    (kept : ∀ s step, allowed step → holds s → holds (s.step step).1) {s : Session} (steps : List Step)
    (all : ∀ step ∈ steps, allowed step) (start : holds s) : holds (s.after steps) := by
  induction steps generalizing s with
  | nil => exact start
  | cons step steps ih =>
      rw [after_cons]
      apply ih
      · intro later member
        exact all later (List.mem_cons_of_mem _ member)
      · exact kept s step (all step List.mem_cons_self) start

theorem ask_eq_ok_iff {α : Type} {s t : Session} {kept : Option (Cached α)} {read : Except Fault α}
    {keep : Session → Cached α → Session} {cached : Cached α} :
    s.ask kept read keep = .ok (cached, t) ↔
      Cached.ofCache kept s.fresh read = .ok cached ∧ t = keep { s with fresh := s.fresh + 1 } cached := by
  unfold ask
  rw [bind_eq_ok_iff]
  constructor
  · intro facts
    rcases facts with ⟨found, given, same⟩
    obtain ⟨rfl, rfl⟩ := Prod.mk.inj (Except.ok.inj same)
    exact ⟨given, rfl⟩
  · intro facts
    rcases facts with ⟨given, rfl⟩
    exact ⟨cached, given, rfl⟩

theorem ask_of_error {α : Type} {s : Session} {kept : Option (Cached α)} {read : Except Fault α}
    {keep : Session → Cached α → Session} {fault : Fault} (refused : Cached.ofCache kept s.fresh read = .error fault) :
    s.ask kept read keep = .error fault := by
  unfold ask
  rw [refused]
  rfl

end BearerRole.Session
