import BearerRole.Proofs.Session.Access

/-!
The caches of settings. Between two clearings a cache gives one object to all that ask it, made at the first time that
its settings could be read; before that it gives nothing and keeps nothing. An object that is given after a clearing is
another one.
-/

namespace BearerRole.Session

set_option autoImplicit false

open Settings (RoleSettings LogSettings)

def Shelf.Refuses {α : Type} (shelf : Shelf α) (s : Session) (steps : List Step) : Prop :=
  ∀ front step back, steps = front ++ step :: back → shelf.asks step = true →
    ∃ fault, shelf.given (s.after front) = .error fault

/-- What single steps do to a shelf. -/
structure Shelf.Follows {α : Type} (shelf : Shelf α) : Prop where
  start : ∀ files environment, shelf.kept (Session.start files environment) = none
  cleared : ∀ s : Session, shelf.kept (s.step .clearCaches).1 = none
  given : ∀ (s : Session) (step : Step) (object : Cached α), shelf.asks step = true →
    shelf.given s = .ok object → shelf.kept (s.step step).1 = some object ∧ (s.step step).1.fresh = s.fresh + 1
  refused : ∀ (s : Session) (step : Step) (fault : Fault), shelf.asks step = true →
    shelf.given s = .error fault → s.step step = s.failed fault
  other : ∀ (s : Session) (step : Step), shelf.asks step = false → step ≠ .clearCaches →
    shelf.kept (s.step step).1 = shelf.kept s
  display : shelf.asks shelf.display = true
  displayed : ∀ (s : Session) (object : Cached α), shelf.given s = .ok object →
    object.identity ∈ (s.step shelf.display).1.shown ∧
      (s.step shelf.display).2 =
        .pure (.ok (shelf.shown object.value (some ((s.step shelf.display).1.number object.identity))))

theorem mem_enlist (s : Session) (identity : Nat) : identity ∈ (s.enlist identity).shown := by
  unfold enlist
  by_cases shown : s.shown.contains identity = true
  · rw [if_pos shown]
    exact List.contains_iff_mem.mp shown
  · rw [if_neg shown]
    exact List.mem_append_right _ (List.mem_singleton_self identity)

theorem role_shelf_follows : roleShelf.Follows where
  start := by
    intro files environment
    rfl
  cleared := by
    intro s
    rfl
  given := by
    intro s step object asks given
    have leaves := role_step_given asks given
    exact ⟨leaves.roleCache, leaves.fresh⟩
  refused := by
    intro s step fault asks refused
    exact role_step_refused asks refused
  other := by
    intro s step asks clears
    rcases s.step_leaves clears with leaves | ⟨object, contrary, _⟩ | ⟨object, _, leaves⟩
    · exact leaves.roleCache
    · rw [asks] at contrary
      contradiction
    · exact leaves.roleCache
  display := rfl
  displayed := by
    intro s object given
    show object.identity ∈ (s.step .showSettings).1.shown ∧ (s.step .showSettings).2 =
      .pure (.ok (.settings object.value (some ((s.step .showSettings).1.number object.identity))))
    rw [show_settings_of_given given]
    exact ⟨(s.keepRole object).mem_enlist object.identity, rfl⟩

theorem log_shelf_follows : logShelf.Follows where
  start := by
    intro files environment
    rfl
  cleared := by
    intro s
    rfl
  given := by
    intro s step object asks given
    have leaves := log_step_given asks given
    exact ⟨leaves.logCache, leaves.fresh⟩
  refused := by
    intro s step fault asks refused
    exact log_step_refused asks refused
  other := by
    intro s step asks clears
    rcases s.step_leaves clears with leaves | ⟨object, _, leaves⟩ | ⟨object, contrary, _⟩
    · exact leaves.logCache
    · exact leaves.logCache
    · rw [asks] at contrary
      contradiction
  display := rfl
  displayed := by
    intro s object given
    show object.identity ∈ (s.step .showLogSettings).1.shown ∧ (s.step .showLogSettings).2 =
      .pure (.ok (.logSettings object.value (some ((s.step .showLogSettings).1.number object.identity))))
    rw [show_log_settings_of_given given]
    exact ⟨(s.keepLog object).mem_enlist object.identity, rfl⟩

structure Grows (s t : Session) : Prop where
  fresh : s.fresh ≤ t.fresh
  shown : s.shown <+: t.shown

theorem grows_refl (s : Session) : s.Grows s := ⟨Nat.le_refl _, List.prefix_rfl⟩

theorem Grows.trans {s t u : Session} (first : s.Grows t) (second : t.Grows u) : s.Grows u :=
  ⟨Nat.le_trans first.fresh second.fresh, first.shown.trans second.shown⟩

theorem LeavesCaches.grows {s : Session} {result : Session × Outcome} (leaves : s.LeavesCaches result) :
    s.Grows result.1 := ⟨Nat.le_of_eq leaves.fresh.symm, leaves.shown⟩

theorem step_grows (s : Session) (step : Step) : s.Grows (s.step step).1 := by
  by_cases clears : step = .clearCaches
  · rw [clears]
    exact ⟨Nat.le_refl _, List.prefix_rfl⟩
  · rcases s.step_leaves clears with leaves | ⟨object, _, leaves⟩ | ⟨object, _, leaves⟩
    · exact leaves.grows
    · have kept : s.Grows (s.keepRole object) := ⟨Nat.le_succ _, List.prefix_rfl⟩
      exact kept.trans leaves.grows
    · have kept : s.Grows (s.keepLog object) := ⟨Nat.le_succ _, List.prefix_rfl⟩
      exact kept.trans leaves.grows

theorem grows_after (s : Session) (steps : List Step) : s.Grows (s.after steps) := by
  induction steps generalizing s with
  | nil => exact s.grows_refl
  | cons step steps ih => exact (s.step_grows step).trans (ih _)

section

variable {α : Type} {shelf : Shelf α}

theorem Shelf.given_of_kept {s : Session} {object : Cached α} (kept : shelf.kept s = some object) :
    shelf.given s = .ok object := by
  unfold Shelf.given
  rw [kept]
  rfl

theorem Shelf.given_eq_error_iff (shelf : Shelf α) (s : Session) (fault : Fault) :
    shelf.given s = .error fault ↔ shelf.kept s = none ∧ shelf.read s = .error fault := by
  unfold Shelf.given
  cases shelf.kept s with
  | some object => exact ⟨nofun, fun facts => nomatch facts.1⟩
  | none =>
      cases shelf.read s with
      | ok value => exact ⟨nofun, fun facts => nomatch facts.2⟩
      | error found =>
          constructor
          · intro same
            exact ⟨rfl, congrArg Except.error (Except.error.inj same)⟩
          · intro facts
            exact congrArg Except.error (Except.error.inj facts.2)

theorem Shelf.Follows.kept_after (follows : shelf.Follows) {s : Session} {object : Cached α} {steps : List Step}
    (kept : shelf.kept s = some object) (uncleared : .clearCaches ∉ steps) :
    shelf.kept (s.after steps) = some object := by
  have single : ∀ (t : Session) (step : Step), step ≠ .clearCaches → shelf.kept t = some object →
      shelf.kept (t.step step).1 = some object := by
    intro t step clears kept
    cases asks : shelf.asks step with
    | true => exact (follows.given t step object asks (Shelf.given_of_kept kept)).1
    | false => rw [follows.other t step asks clears, kept]
  apply invariant_after (fun step => step ≠ .clearCaches) single steps _ kept
  intro step member same
  rw [same] at member
  exact uncleared member

theorem Shelf.Follows.given_after (follows : shelf.Follows) {s : Session} {object : Cached α} {step : Step}
    {between : List Step} (asks : shelf.asks step = true) (given : shelf.given s = .ok object)
    (uncleared : .clearCaches ∉ between) : shelf.given ((s.step step).1.after between) = .ok object :=
  Shelf.given_of_kept (follows.kept_after (follows.given s step object asks given).1 uncleared)

theorem Shelf.refuses_nil (s : Session) : shelf.Refuses s [] := by
  intro front step back same
  exact absurd same (by simp)

theorem Shelf.refuses_cons {s : Session} {step : Step} {steps : List Step}
    (first : shelf.asks step = true → ∃ fault, shelf.given s = .error fault)
    (rest : shelf.Refuses (s.step step).1 steps) : shelf.Refuses s (step :: steps) := by
  intro front later back same
  cases front with
  | nil =>
      rw [List.nil_append, List.cons.injEq] at same
      rw [← same.1]
      exact first
  | cons head front =>
      rw [List.cons_append, List.cons.injEq] at same
      rw [← same.1, after_cons]
      exact rest front later back same.2

/-- In a stretch without a clearing, what is given was read at the first step that was given something. -/
theorem Shelf.Follows.first_given (follows : shelf.Follows) {s : Session} {stretch : List Step} {access : Step}
    {object : Cached α} (empty : shelf.kept s = none) (uncleared : .clearCaches ∉ stretch)
    (asks : shelf.asks access = true) (given : shelf.given (s.after stretch) = .ok object) :
    ∃ front step, front ++ [step] <+: stretch ++ [access] ∧ shelf.asks step = true ∧ shelf.Refuses s front ∧
      shelf.read (s.after front) = .ok object.value := by
  have read_of_given : ∀ {t : Session} {found : Cached α}, shelf.kept t = none → shelf.given t = .ok found →
      shelf.read t = .ok found.value := by
    intro t found empty given
    unfold Shelf.given at given
    rw [empty] at given
    obtain ⟨value, read, rfl⟩ := map_eq_ok_iff.mp given
    exact read
  induction stretch generalizing s with
  | nil => exact ⟨[], access, List.prefix_rfl, asks, Shelf.refuses_nil s, read_of_given empty given⟩
  | cons step stretch ih =>
      rw [List.mem_cons, not_or] at uncleared
      obtain ⟨clears, uncleared⟩ := uncleared
      -- A step that is given something decides the object; any other leaves the shelf empty for the rest.
      have later : shelf.kept (s.step step).1 = none →
          (shelf.asks step = true → ∃ fault, shelf.given s = .error fault) →
            ∃ front step', front ++ [step'] <+: step :: stretch ++ [access] ∧ shelf.asks step' = true ∧
              shelf.Refuses s front ∧ shelf.read (s.after front) = .ok object.value := by
        intro empty refused
        obtain ⟨front, step', within, asks', refuses, read⟩ := ih empty uncleared given
        refine ⟨step :: front, step', ?_, asks', Shelf.refuses_cons refused refuses, read⟩
        exact (List.prefix_cons_inj step).mpr within
      cases asked : shelf.asks step with
      | false =>
          apply later
          · rw [follows.other s step asked (Ne.symm clears), empty]
          · intro contrary
            rw [asked] at contrary
            cases contrary
      | true =>
          cases found : shelf.given s with
          | error fault =>
              apply later
              · rw [follows.refused s step fault asked found]
                exact empty
              · intro _
                exact ⟨fault, found⟩
          | ok first =>
              have same : first = object := by
                have kept := follows.given_after asked found uncleared
                rw [after_cons, kept] at given
                exact Except.ok.inj given
              refine ⟨[], step, ?_, asked, Shelf.refuses_nil s, ?_⟩
              · exact (List.prefix_cons_inj step).mpr (List.nil_prefix)
              · rw [after_nil, ← same]
                exact read_of_given empty found

/-- What a shelf keeps was made from a time on when identities stood at a floor. -/
structure Shelf.MadeFrom (shelf : Shelf α) (floor : Nat) (s : Session) : Prop where
  fresh : floor ≤ s.fresh
  kept : ∀ object, shelf.kept s = some object → floor ≤ object.identity ∧ object.identity < s.fresh

theorem Shelf.made_from_of_empty {s : Session} (empty : shelf.kept s = none) : shelf.MadeFrom s.fresh s := by
  constructor
  · exact Nat.le_refl _
  · intro object kept
    rw [empty] at kept
    cases kept

theorem Shelf.MadeFrom.given {floor : Nat} {s : Session} {object : Cached α} (made : shelf.MadeFrom floor s)
    (given : shelf.given s = .ok object) : floor ≤ object.identity ∧ object.identity ≤ s.fresh := by
  unfold Shelf.given at given
  cases kept : shelf.kept s with
  | some found =>
      rw [kept] at given
      cases given
      obtain ⟨low, high⟩ := made.kept object kept
      exact ⟨low, Nat.le_of_lt high⟩
  | none =>
      rw [kept] at given
      obtain ⟨value, _, rfl⟩ := map_eq_ok_iff.mp given
      exact ⟨made.fresh, Nat.le_refl _⟩

theorem Shelf.Follows.made_from_step (follows : shelf.Follows) {floor : Nat} (s : Session) (step : Step)
    (made : shelf.MadeFrom floor s) : shelf.MadeFrom floor (s.step step).1 := by
  have grows := (s.step_grows step).fresh
  refine ⟨Nat.le_trans made.fresh grows, ?_⟩
  intro object kept
  by_cases clears : step = .clearCaches
  · rw [clears, follows.cleared] at kept
    cases kept
  cases asks : shelf.asks step with
  | false =>
      rw [follows.other s step asks clears] at kept
      obtain ⟨low, high⟩ := made.kept object kept
      exact ⟨low, Nat.lt_of_lt_of_le high grows⟩
  | true =>
      cases found : shelf.given s with
      | error fault =>
          rw [follows.refused s step fault asks found] at kept ⊢
          exact made.kept object kept
      | ok first =>
          obtain ⟨keeps, next⟩ := follows.given s step first asks found
          rw [keeps] at kept
          cases kept
          obtain ⟨low, high⟩ := made.given found
          rw [next]
          exact ⟨low, Nat.lt_succ_of_le high⟩

theorem Shelf.Follows.made_from_after (follows : shelf.Follows) {floor : Nat} {s : Session} (steps : List Step)
    (made : shelf.MadeFrom floor s) : shelf.MadeFrom floor (s.after steps) :=
  invariant_after (fun _ => True) (fun t step _ => follows.made_from_step t step) steps
    (fun _ _ => trivial) made

/-- An object that is given after a clearing was made after it, and so is none of those before. -/
theorem Shelf.Follows.identity_of_cleared (follows : shelf.Follows) {files : Files} {environment : Settings.Environment}
    {before between : List Step} {step : Step} {a b : Cached α} (asks : shelf.asks step = true)
    (cleared : .clearCaches ∈ between) (first : shelf.given ((Session.start files environment).after before) = .ok a)
    (second : shelf.given ((((Session.start files environment).after before).step step).1.after between) = .ok b) :
    a.identity < b.identity := by
  have made := follows.made_from_after before (Shelf.made_from_of_empty (follows.start files environment))
  generalize (Session.start files environment).after before = s at first second made
  obtain ⟨front, back, rfl⟩ := List.append_of_mem cleared
  rw [after_append, after_cons] at second
  have grows := ((s.step step).1.grows_after front).fresh
  generalize (s.step step).1.after front = t at second grows
  have later := follows.made_from_after back (Shelf.made_from_of_empty (follows.cleared t))
  calc
    a.identity ≤ s.fresh := (made.given first).2
    _ < (s.step step).1.fresh := by rw [(follows.given s step a asks first).2]; exact Nat.lt_succ_self _
    _ ≤ t.fresh := grows
    _ ≤ (t.step .clearCaches).1.fresh := (t.step_grows .clearCaches).fresh
    _ ≤ b.identity := (later.given second).1

theorem number_after {s : Session} {identity : Nat} (shown : identity ∈ s.shown) (steps : List Step) :
    (s.after steps).number identity = s.number identity := by
  obtain ⟨more, same⟩ := (s.grows_after steps).shown
  unfold number
  rw [← same, List.idxOf_append_of_mem shown]

/-- Two objects are shown under one number exactly when they are one object. -/
theorem Shelf.Follows.number_eq_iff (follows : shelf.Follows) {s : Session} {a : Cached α}
    (given : shelf.given s = .ok a) (between : List Step) (b : Cached α) :
    (s.step shelf.display).1.number a.identity =
        (((s.step shelf.display).1.after between).step shelf.display).1.number b.identity ↔
      a.identity = b.identity := by
  have shown := (follows.displayed s a given).1
  generalize (s.step shelf.display).1 = t at shown
  have stays : a.identity ∈ ((t.after between).step shelf.display).1.shown := by
    have all := (t.grows_after between).trans ((t.after between).step_grows shelf.display)
    exact all.shown.subset shown
  have same := number_after shown (between ++ [shelf.display])
  rw [after_append, after_cons, after_nil] at same
  rw [← same]
  exact List.idxOf_inj stays

end

/-- The protocol of a cache. An access is a step that asks; it is refused where nothing is kept and the settings cannot be read
then, and otherwise it is given an object. -/
structure Shelf.KeepsOne {α : Type} (shelf : Shelf α) : Prop where
  /-- A stretch begins with nothing kept: at the start of a session, or by a clearing. -/
  opens : (∀ files environment, shelf.kept (Session.start files environment) = none) ∧
    ∀ s : Session, shelf.kept (s.step .clearCaches).1 = none
  /-- Only where nothing is kept are settings read, and an access is refused exactly when that fails. -/
  reads : ∀ (s : Session) (fault : Fault), shelf.given s = .error fault ↔
    shelf.kept s = none ∧ shelf.read s = .error fault
  /-- A refused access reports the failure to read and leaves the session as it was. -/
  refused : ∀ (s : Session) (step : Step) (fault : Fault), shelf.asks step = true →
    shelf.given s = .error fault → s.step step = (s, .pure (.error fault))
  /-- Once an access was given an object, all others of the stretch are given that object. -/
  one : ∀ (s : Session) (step : Step) (between : List Step) (object : Cached α), shelf.asks step = true →
    .clearCaches ∉ between → shelf.given s = .ok object →
      shelf.given ((s.step step).1.after between) = .ok object
  /-- The object has the value that was read at the first access of the stretch that was not refused. -/
  first : ∀ (s : Session) (stretch : List Step) (access : Step) (object : Cached α), shelf.kept s = none →
    .clearCaches ∉ stretch → shelf.asks access = true → shelf.given (s.after stretch) = .ok object →
      ∃ front step, front ++ [step] <+: stretch ++ [access] ∧ shelf.asks step = true ∧ shelf.Refuses s front ∧
        shelf.read (s.after front) = .ok object.value
  /-- Objects of different stretches are different. -/
  apart : ∀ (files : Files) (environment : Settings.Environment) (before between : List Step) (step : Step)
    (a b : Cached α), shelf.asks step = true → .clearCaches ∈ between →
      shelf.given ((Session.start files environment).after before) = .ok a →
        shelf.given ((((Session.start files environment).after before).step step).1.after between) = .ok b →
          a.identity ≠ b.identity
  /-- No other step fills the cache. -/
  other : ∀ (s : Session) (step : Step), shelf.asks step = false → step ≠ .clearCaches →
    shelf.kept (s.step step).1 = shelf.kept s
  /-- Whether objects are the same can be told from the numbers under which they are shown. -/
  numbered : ∀ (s : Session) (between : List Step) (a b : Cached α), shelf.given s = .ok a →
    shelf.given ((s.step shelf.display).1.after between) = .ok b →
      ∃ n m, (s.step shelf.display).2 = .pure (.ok (shelf.shown a.value (some n))) ∧
        (((s.step shelf.display).1.after between).step shelf.display).2 =
          .pure (.ok (shelf.shown b.value (some m))) ∧ (n = m ↔ a.identity = b.identity)

theorem Shelf.Follows.keeps_one {α : Type} {shelf : Shelf α} (follows : shelf.Follows) : shelf.KeepsOne where
  opens := ⟨follows.start, follows.cleared⟩
  reads := shelf.given_eq_error_iff
  refused := follows.refused
  one := by
    intro s step between object asks uncleared given
    exact follows.given_after asks given uncleared
  first := by
    intro s stretch access object empty uncleared asks given
    exact follows.first_given empty uncleared asks given
  apart := by
    intro files environment before between step a b asks cleared first second
    exact Nat.ne_of_lt (follows.identity_of_cleared asks cleared first second)
  other := follows.other
  numbered := by
    intro s between a b first second
    exact ⟨_, _, (follows.displayed s a first).2, (follows.displayed _ b second).2,
      follows.number_eq_iff first between b⟩

/-- Both caches follow the protocol, each by itself. A build without settings of its own uses the object that it is given and
leaves it kept, also when its key fails; making settings from given values neither changes what is kept nor depends on
it. -/
theorem caches_keep_one_object :
    roleShelf.KeepsOne ∧ logShelf.KeepsOne ∧
      (∀ (s : Session) (object : Cached RoleSettings), roleShelf.given s = .ok object →
        s.step .buildFromCache = (s.keepRole object).keep (TokenExtractor.build s.files object.value)) ∧
      ∀ (s : Session) (given : Fields),
        s.LeavesCaches (s.step (.makeSettings given)) ∧ s.LeavesCaches (s.step (.makeLogSettings given)) ∧
          ∀ (role : Option (Cached RoleSettings)) (log : Option (Cached LogSettings)),
            ({ s with roleCache := role, logCache := log }.step (.makeSettings given)).2 =
                (s.step (.makeSettings given)).2 ∧
              ({ s with roleCache := role, logCache := log }.step (.makeLogSettings given)).2 =
                (s.step (.makeLogSettings given)).2 := by
  refine ⟨role_shelf_follows.keeps_one, log_shelf_follows.keeps_one, ?_, ?_⟩
  · intro s object given
    exact build_from_cache_of_given given
  · intro s given
    refine ⟨s.other_step_leaves rfl rfl nofun, s.other_step_leaves rfl rfl nofun, ?_⟩
    intro role log
    constructor
    · simp only [step]
      cases RoleSettings.load s.files s.environment given with
      | ok settings => rfl
      | error fault => rfl
    · simp only [step]
      cases LogSettings.load s.files s.environment given with
      | ok settings => rfl
      | error fault => rfl

def unkeyedSession : Session :=
  start .empty [(text "ROLE_EXTRACTOR_PUBLIC_KEY_PATH", text "missing.pem")]

def unsetKeyPath : Step := .unsetVariable (.ofText "ROLE_EXTRACTOR_PUBLIC_KEY_PATH")

/-- A build whose key is not there leaves its settings kept, so that they outlast the variable that they were read from; a
clearing puts others in their place. -/
theorem failed_build_keeps_settings :
    ∃ a b, roleShelf.given unkeyedSession = .ok a ∧
      built? (unkeyedSession.step .buildFromCache).2 = none ∧
      roleShelf.given ((unkeyedSession.step .buildFromCache).1.after [unsetKeyPath]) = .ok a ∧
      roleShelf.given ((unkeyedSession.step .buildFromCache).1.after [unsetKeyPath, .clearCaches]) = .ok b ∧
      a.identity ≠ b.identity := by
  have first : (roleShelf.given unkeyedSession).toOption.isSome = true := by decide +kernel
  have second : (roleShelf.given ((unkeyedSession.step .buildFromCache).1.after
      [unsetKeyPath, .clearCaches])).toOption.isSome = true := by decide +kernel
  have fails : (built? (unkeyedSession.step .buildFromCache).2).isNone = true := by decide +kernel
  obtain ⟨a, isA⟩ := Option.isSome_iff_exists.mp first
  obtain ⟨b, isB⟩ := Option.isSome_iff_exists.mp second
  have givesA := to_option_eq_some_iff.mp isA
  have givesB := to_option_eq_some_iff.mp isB
  obtain ⟨role, _⟩ := caches_keep_one_object
  refine ⟨a, b, givesA, Option.isNone_iff_eq_none.mp fails, ?_, givesB, ?_⟩
  · exact role.one unkeyedSession .buildFromCache [unsetKeyPath] a rfl (by simp [unsetKeyPath]) givesA
  · exact role.apart _ _ [] [unsetKeyPath, .clearCaches] .buildFromCache a b rfl (by simp) givesA givesB

end BearerRole.Session
