import BearerRole.Proofs.Session.Access

/-!
The extractor of a session. Only a step that reports a new extractor changes it, so between two such steps every call is
answered alike, whatever became of the files, the variables and the settings that it was built from.
-/

namespace BearerRole.Session

set_option autoImplicit false

/-- A build that asks the cache may fill it and then fail on its key; the extractor stays then too. -/
theorem step_extractor (s : Session) (step : Step) :
    (s.step step).1.extractor = (built? (s.step step).2).or s.extractor := by
  by_cases clears : step = .clearCaches
  · rw [clears]
    rfl
  · rcases s.step_leaves clears with leaves | ⟨object, _, leaves⟩ | ⟨object, _, leaves⟩
    · exact leaves.extractor
    · exact leaves.extractor
    · exact leaves.extractor

theorem extractor_after (s : Session) (steps : List Step) :
    (s.after steps).extractor = ((s.run steps).filterMap built?).getLast?.or s.extractor := by
  induction steps generalizing s with
  | nil => rfl
  | cons step steps ih =>
      rw [after_cons, run_cons, ih, step_extractor, List.filterMap_cons]
      cases built? (s.step step).2 with
      | none => rfl
      | some extractor =>
          rw [List.getLast?_cons]
          cases ((s.step step).1.run steps |>.filterMap built?).getLast? <;> rfl

theorem extractor_of_unbuilt {s : Session} {steps : List Step}
    (unbuilt : ∀ outcome ∈ s.run steps, built? outcome = none) : (s.after steps).extractor = s.extractor := by
  have none : (s.run steps).filterMap built? = [] := List.filterMap_eq_nil_iff.mpr unbuilt
  rw [extractor_after, none]
  rfl

theorem step_of_error {s : Session} {step : Step} {fault : Fault} (failed : (s.step step).2.value = .error fault) :
    (s.step step).1.extractor = s.extractor := by
  have unbuilt : built? (s.step step).2 = none := by
    unfold built?
    rw [failed]
  rw [step_extractor, unbuilt]
  rfl

theorem step_call (s : Session) (headers : Headers) (now : Token.Instant) : (s.step (.call headers now)).1 = s := by
  simp only [step]
  cases s.extractor with
  | none => rfl
  | some extractor => rfl

theorem call_of_extractor {s t : Session} (same : t.extractor = s.extractor) (headers : Headers)
    (now : Token.Instant) : (t.step (.call headers now)).2 = (s.step (.call headers now)).2 := by
  simp only [step, same]
  cases s.extractor with
  | none => rfl
  | some extractor => rfl

theorem step_assign_settings (s : Session) (field : Text) : (s.step (.assignSettings field)).1 = s := by
  simp only [step]
  cases s.lastSettings with
  | none => rfl
  | some settings => cases assignment field <;> rfl

theorem step_assign_extractor (s : Session) (field : Text) : (s.step (.assignExtractor field)).1 = s := by
  simp only [step]
  cases s.extractor with
  | none => rfl
  | some extractor => rfl

/-- With no extractor built between two calls of a run, both get one answer: the same role, and the same records. What fails
keeps the extractor, and an attempt to assign a field changes nothing at all. -/
theorem frozen_between_builds (s : Session) (before between : List Step)
    (unbuilt : ∀ outcome ∈ (s.after before).run between, built? outcome = none) :
    (∀ headers now, ∃ answer,
      s.run (before ++ .call headers now :: (between ++ [.call headers now])) =
        s.run before ++ answer :: ((s.after before).run between ++ [answer])) ∧
      (s.after (before ++ between)).extractor = (s.after before).extractor ∧
      (∀ step fault, ((s.after before).step step).2.value = .error fault →
        ((s.after before).step step).1.extractor = (s.after before).extractor) ∧
      ∀ field, ((s.after before).step (.assignSettings field)).1 = s.after before ∧
        ((s.after before).step (.assignExtractor field)).1 = s.after before := by
  have same : ((s.after before).after between).extractor = (s.after before).extractor := extractor_of_unbuilt unbuilt
  refine ⟨?_, ?_, ?_, ?_⟩
  · intro headers now
    refine ⟨((s.after before).step (.call headers now)).2, ?_⟩
    rw [run_append, run_cons, step_call, run_append, run_cons, call_of_extractor same]
    rfl
  · rw [after_append, same]
  · intro step fault failed
    exact step_of_error failed
  · intro field
    exact ⟨step_assign_settings _ field, step_assign_extractor _ field⟩

/-- A process that came to trust its callers, and then was given the path of a key that is not there. -/
def rekeyedSteps : List Step :=
  [.setVariable (.ofText "ROLE_EXTRACTOR_PUBLIC_KEY_PATH") (.ofText "missing.pem"),
    .writeFile (text ".env") (.text (text "ROLE_EXTRACTOR_ISSUER=a")), .clearCaches,
    .buildFromCache, .showSettings, .buildFromLast, .assignExtractor (text "parser"),
    .assignSettings (text "public_key_path"), .removeFile (text ".env")]

/-- A token without a signature that claims the role of an operator. -/
def rekeyedHeaders : Headers :=
  .received [(text "authorization", text "Bearer e30.eyJyb2xlIjoib3BlcmF0b3IifQ.")]

def answered? (outcome : Outcome) : Option Role :=
  match outcome.value with
  | .ok (.role role) => some role
  | _ => none

/-- The first build makes an extractor. All of the builds fail from then on, and the caller is taken for an operator as
before. -/
theorem frozen_through_failed_builds :
    (((start .empty .empty).run [.buildFromCache]).filterMap built?).length = 1 ∧
      (∀ outcome ∈ ((start .empty .empty).after [.buildFromCache]).run rekeyedSteps, built? outcome = none) ∧
      ∃ answer, answered? answer = some .operator ∧
        (start .empty .empty).run
            ([.buildFromCache] ++ .call rekeyedHeaders 1750000000 ::
              (rekeyedSteps ++ [.call rekeyedHeaders 1750000000])) =
          (start .empty .empty).run [.buildFromCache] ++ answer ::
            (((start .empty .empty).after [.buildFromCache]).run rekeyedSteps ++ [answer]) := by
  have fails : (((start .empty .empty).after [.buildFromCache]).run rekeyedSteps).all
      (fun outcome => (built? outcome).isNone) = true := by decide +kernel
  have unbuilt : ∀ outcome ∈ ((start .empty .empty).after [.buildFromCache]).run rekeyedSteps,
      built? outcome = none := by
    intro outcome member
    exact Option.isNone_iff_eq_none.mp (List.all_eq_true.mp fails outcome member)
  obtain ⟨alike, _⟩ := frozen_between_builds (start .empty .empty) [.buildFromCache] rekeyedSteps unbuilt
  obtain ⟨answer, same⟩ := alike rekeyedHeaders 1750000000
  refine ⟨by decide +kernel, unbuilt, answer, ?_, same⟩
  have asked : ((start .empty .empty).run ([.buildFromCache] ++ .call rekeyedHeaders 1750000000 ::
      (rekeyedSteps ++ [.call rekeyedHeaders 1750000000])))[1]?.bind answered? = some .operator := by decide +kernel
  rw [same] at asked
  exact asked

end BearerRole.Session
