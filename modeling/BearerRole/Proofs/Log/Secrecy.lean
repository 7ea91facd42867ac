import BearerRole.Log.Journal
import BearerRole.Proofs.Log.Redaction
import BearerRole.Proofs.Partial

/-!
What a log line may depend on. Whether a line is written, and what stands in it, is the same as if every sensitive value had
been redacted before it was handed over: in the fields of a record, in those of an event, and in the context.
-/

namespace BearerRole.Log

set_option autoImplicit false

section

variable {fields others : Fields}

theorem finish_of_redact (same : redact fields = redact others) (stamp : Text) :
    finish stamp fields = finish stamp others := by
  simp only [finish, redact_insert, same]

theorem record_fields_redact (stamp : Text) (context : Fields) (logger : Text) (level : Level) (event : Text)
    (extra : Fields) :
    recordFields stamp (redact context) logger level event (redact extra) =
      recordFields stamp context logger level event extra := by
  apply finish_of_redact
  simp only [redact_insert_all, redact_insert, redact_add_context, redact_redact]

theorem event_fields_of_redact (same : redact fields = redact others) (stamp logger : Text) (level : Level) :
    eventFields stamp fields logger level = eventFields stamp others logger level := by
  apply finish_of_redact
  simp only [redact_insert, same]

theorem redact_gather (context bound own : Fields) (arguments : List Value) (event : Value) :
    redact (gather (redact context) (redact bound) (redact own) arguments event) =
      redact (gather context bound own arguments event) := by
  simp only [gather, redact_add_context, redact_redact]
  congr 1
  split <;> split <;> simp only [redact_insert, redact_insert_all, redact_redact, redact_nil]

theorem has_false_record_of_redact (same : redact fields = redact others) :
    hasFalseRecord fields = hasFalseRecord others := by
  have plain : isSensitiveName recordKey = false := by decide +kernel
  have sameRecord : fields.get? recordKey = others.get? recordKey := by
    rw [← get_redact_of_plain plain fields, same, get_redact_of_plain plain]
  simp only [hasFalseRecord, sameRecord]

end

def Report.censored (report : Report) : Report := { report with own := redact report.own }

namespace Event

def censored (e : Event) : Event := { e with bound := redact e.bound, own := redact e.own }

theorem report_at_censored (e : Event) : e.censored.reportAt = e.reportAt.map Report.censored := by
  have plain : isSensitiveName eventKey = false := by decide +kernel
  have kept : (redact e.own).filter (fun entry => entry.1 ≠ eventKey) =
      redact (e.own.filter fun entry => entry.1 ≠ eventKey) :=
    (redact_filter (fun name => name ≠ eventKey) e.own).symm
  simp only [reportAt, censored, has_redact, get_redact_of_plain plain, kept, mapped_guard]
  cases e.arguments with
  | nil =>
      simp only [mapped_bind, mapped_guard]
      rfl
  | cons event rest =>
      by_cases twice : e.own.has eventKey = true
      · simp only [if_pos twice, mapped_bind, mapped_guard]
        rfl
      · simp only [if_neg twice, mapped_bind, mapped_guard]
        rfl

theorem forgets_censored (e : Event) (strict : Bool) : e.censored.forgets strict = e.forgets strict := by
  have sameKeys : (redact e.bound).map Prod.fst = e.bound.map Prod.fst := keys_redact e.bound
  have sameEmpty : (redact e.own).isEmpty = e.own.isEmpty := List.isEmpty_map
  simp only [forgets, censored, sameKeys, sameEmpty]

theorem report_censored (e : Event) : e.censored.report? = e.report?.map (Option.map Report.censored) := by
  have sameMethod : e.censored.method = e.method := rfl
  have sameBound : e.censored.bound.has selfName = e.bound.has selfName := has_redact e.bound selfName
  have sameOwn : ∀ name, e.censored.own.has name = e.own.has name := has_redact e.own
  simp only [report?, sameMethod, sameBound, sameOwn, forgets_censored, report_at_censored, mapped_guard]
  cases Method.ofName? e.method with
  | none => rfl
  | some method =>
      cases method with
      | report level =>
          simp only [mapped_guard]
          rfl
      | reportAt =>
          simp only
          cases e.reportAt <;> rfl
      | deferred =>
          simp only [mapped_guard]
          rfl
      | forget strict =>
          simp only
          cases e.forgets strict <;> rfl
      | part => rfl

end Event

namespace Journal

def censored (s : Journal) : Journal := { s with context := redact s.context }

def Message.censored (m : Message) : Message := { m with extra := redact m.extra }

theorem write_censored (s : Journal) (stamp : Text) (m : Message) :
    s.censored.write stamp m.censored = s.write stamp m := by
  have sameLevel : s.censored.level = s.level := rfl
  have sameNames : (redact m.extra).has = m.extra.has := funext (has_redact m.extra)
  simp only [write, sameLevel, Message.censored, keys_redact, sameNames]
  simp only [censored, record_fields_redact]

theorem report_censored (s : Journal) (stamp : Text) (e : Event) :
    s.censored.report stamp e.censored = s.report stamp e := by
  unfold report
  rw [Event.report_censored]
  cases e.report? with
  | error fault => rfl
  | ok made =>
      have sameOutput : s.censored.output = s.output := rfl
      rw [sameOutput]
      cases made with
      | none => rfl
      | some report =>
          have same := redact_gather s.context e.bound report.own report.arguments report.event
          have sameRecord := has_false_record_of_redact same
          have sameFields := event_fields_of_redact same stamp e.logger report.level
          cases s.output with
          | none => rfl
          | some output =>
              simp only [Except.map, Option.map, ok_bind, censored, Event.censored, Report.censored, sameRecord,
                sameFields]

/-- Messages that differ in sensitive values at most. -/
structure Message.SameButSecrets (m other : Message) : Prop where
  logger : m.logger = other.logger
  level : m.level = other.level
  template : m.template = other.template
  arguments : m.arguments = other.arguments
  extra : Log.SameButSecrets m.extra other.extra
  failure : m.failure = other.failure

theorem Message.censored_of_same {m other : Message} (same : m.SameButSecrets other) :
    m.censored = other.censored := by
  have sameExtra := redact_eq_iff.mpr same.extra
  simp only [censored, same.logger, same.level, same.template, same.arguments, sameExtra, same.failure]

theorem censored_of_same {s other : Journal} (sameOutput : s.output = other.output)
    (contexts : SameButSecrets s.context other.context) : s.censored = other.censored := by
  have sameContext := redact_eq_iff.mpr contexts
  simp only [censored, sameOutput, sameContext]

end Journal

namespace Event

structure SameButSecrets (e other : Event) : Prop where
  logger : e.logger = other.logger
  method : e.method = other.method
  event : e.event = other.event
  arguments : e.arguments = other.arguments
  bound : Log.SameButSecrets e.bound other.bound
  own : Log.SameButSecrets e.own other.own
  failure : e.failure = other.failure

theorem censored_of_same {e other : Event} (same : e.SameButSecrets other) : e.censored = other.censored := by
  have sameBound := redact_eq_iff.mpr same.bound
  have sameOwn := redact_eq_iff.mpr same.own
  simp only [censored, same.logger, same.method, same.event, same.arguments, sameBound, sameOwn, same.failure]

end Event

/-- Once the output is configured, in either format and from any level on, two messages that differ in nothing but values
under sensitive names write the same, be it a line, nothing at all, or a failure to write; and so do two events. The
same holds of what the context adds to them. -/
theorem secrets_leave_no_trace (settings : Settings.LogSettings) {s other : Journal}
    (contexts : SameButSecrets s.context other.context) (stamp : Text) :
    (∀ m second : Journal.Message, m.SameButSecrets second →
        (s.configure settings).write stamp m = (other.configure settings).write stamp second) ∧
      ∀ e second : Event, e.SameButSecrets second →
        (s.configure settings).report stamp e = (other.configure settings).report stamp second := by
  have sameJournal : (s.configure settings).censored = (other.configure settings).censored :=
    Journal.censored_of_same rfl contexts
  constructor
  · intro m second same
    rw [← Journal.write_censored, sameJournal, Journal.Message.censored_of_same same, Journal.write_censored]
  · intro e second same
    rw [← Journal.report_censored, sameJournal, Event.censored_of_same same, Journal.report_censored]

/-- A token in the context, and a password among the fields of a message, leave no trace in a line that is written. -/
theorem password_and_token_unseen :
    let settings : Settings.LogSettings := ⟨.info, .json, text "development"⟩
    let journal (token : String) : Journal := Journal.start.bind [(text "Access_Token", .ofText token)]
    let message (password : Value) : Journal.Message :=
      ⟨text "app", .warning, text "login", [], [(text "user", .ofText "ann"), (text "PASSWORD", password)], none⟩
    SameButSecrets (journal "a").context (journal "b").context ∧
      (message (.ofText "x")).SameButSecrets (message (.list [.int 7])) ∧
      ((journal "a").configure settings).write (text "now") (message (.ofText "x")) =
        ((journal "b").configure settings).write (text "now") (message (.list [.int 7])) ∧
      (((journal "b").configure settings).write (text "now") (message (.list [.int 7]))).toOption =
        some (text "\x7b\"event\": \"login\", \"Access_Token\": \"***REDACTED***\", \"logger\": \"app\", " ++
          text "\"level\": \"warning\", \"user\": \"ann\", \"PASSWORD\": \"***REDACTED***\", " ++
          text "\"timestamp\": \"now\"\x7d\n") := by
  intro settings journal message
  have sensitive : ∀ name, isSensitiveName name = true → ∀ v other : Value, (¬IsSensitive name → v = other) := by
    intro name sensitive v other plain
    exact absurd (is_sensitive_name_iff.mp sensitive) plain
  have contexts : SameButSecrets (journal "a").context (journal "b").context :=
    .cons ⟨rfl, sensitive _ (by decide +kernel) _ _⟩ .nil
  have messages : (message (.ofText "x")).SameButSecrets (message (.list [.int 7])) :=
    ⟨rfl, rfl, rfl, rfl, .cons ⟨rfl, fun _ => rfl⟩ (.cons ⟨rfl, sensitive _ (by decide +kernel) _ _⟩ .nil), rfl⟩
  refine ⟨contexts, messages, ?_, by decide +kernel⟩
  exact (secrets_leave_no_trace settings contexts (text "now")).1 _ _ messages

end BearerRole.Log
