/-
# TableModel.Proofs.Database.Execution — actions that reach no engine, and actions that run errands

Two things can be known about an action whatever the scripts hold. It may be *quiet*: it reaches no
engine, and only its result matters. Or it may *run errands*: the engines see the transactions of the
errands and nothing else, and it fails with an engine's failure exactly when one of the statements
failed so. Checks are quiet, statements and batches run errands, and what is made of checks and
statements one after the other is one or the other.

Both are proved together with what the log says. A quiet action is *silent*: it reports no error. An
action that runs errands *performs* them: the log is the chronicle of their transactions, but for what
other parts of the library remark.
-/
import TableModel.Proofs.Checks
import TableModel.Proofs.Database.Chronicle

namespace TableModel

/-! ## Effects -/

/-- A record in the log by a part of the library that does not use databases. -/
def Effect.IsRemark (effect : Effect) : Prop :=
  ∃ record : LogRecord, effect = .log record ∧ record.channel ≠ .database

/-- A remark that is no report of an error. -/
def Effect.IsAside (effect : Effect) : Prop :=
  ∃ record : LogRecord, effect = .log record ∧ record.channel ≠ .database ∧ record.level ≠ .error

theorem Effect.IsAside.isRemark {effect : Effect} (aside : effect.IsAside) : effect.IsRemark := by
  obtain ⟨record, said, other, -⟩ := aside
  exact ⟨record, said, other⟩

namespace Trace

@[simp] theorem events_nil : Trace.events [] = [] := rfl

@[simp] theorem events_append (left right : Trace) :
    Trace.events (left ++ right) = left.events ++ right.events := by
  simp [Trace.events]

@[simp] theorem events_event (event : Event) (rest : Trace) :
    Trace.events (.event event :: rest) = event :: rest.events := rfl

@[simp] theorem events_log (record : LogRecord) (rest : Trace) :
    Trace.events (.log record :: rest) = rest.events := rfl

theorem events_logs (records : List LogRecord) : Trace.events (records.map Effect.log) = [] := by
  induction records with
  | nil => rfl
  | cons record rest ih => exact ih

/-- Remarks are no events. -/
theorem events_of_remarks {trace : Trace} (remarks : ∀ effect ∈ trace, effect.IsRemark) :
    trace.events = [] := by
  induction trace with
  | nil => rfl
  | cons effect rest ih =>
    rw [List.forall_mem_cons] at remarks
    obtain ⟨⟨record, rfl, -⟩, others⟩ := remarks
    rw [events_log, ih others]

theorem events_of_asides {trace : Trace} (asides : ∀ effect ∈ trace, effect.IsAside) :
    trace.events = [] :=
  events_of_remarks fun effect mem => (asides effect mem).isRemark

/-- Asides are left out of the account. -/
theorem account_of_asides {trace : Trace} (asides : ∀ effect ∈ trace, effect.IsAside) :
    trace.account = [] := by
  induction trace with
  | nil => rfl
  | cons effect rest ih =>
    rw [List.forall_mem_cons] at asides
    obtain ⟨⟨record, rfl, other, mild⟩, others⟩ := asides
    have aside : ¬ record.isAccount = true := by
      simp [LogRecord.isAccount, LogRecord.isReport, other, mild]
    rw [account_log, if_neg aside, ih others]

end Trace

/-! ## Executions that show errands -/

/-- An execution that the engines have seen as the transactions of errands. An engine's failure comes
from one of the statements and is passed on as it is. -/
structure Execution.Shows {α : Type} (done : Execution α) (errands : List Errand)
    (scripts : Scripts) : Prop where
  events_eq : done.trace.events = (Errand.transactions errands scripts).flatMap Transaction.events
  scripts_eq : done.scripts = Errand.drainAll errands scripts
  raised : ∀ fault, done.result = .error (.engine fault) ↔
    ∃ transaction ∈ Errand.transactions errands scripts, transaction.fault? = some fault

/-- The execution of errands that fails for no other reason than an engine's failure. -/
structure Execution.Settles {α : Type} (done : Execution α) (errands : List Errand)
    (scripts : Scripts) : Prop extends done.Shows errands scripts where
  blamed : ∀ failure, done.result = .error failure → failure.isEngine = true

/-- An execution that the log tells of as the engines have seen it. -/
structure Execution.Recounts {α : Type} (done : Execution α) (errands : List Errand)
    (scripts : Scripts) : Prop extends done.Shows errands scripts where
  told : Chronicle (Errand.transactions errands scripts) done.trace.account

/-- An execution that the log tells of, and that fails for no other reason than an engine's failure. -/
structure Execution.Concludes {α : Type} (done : Execution α) (errands : List Errand)
    (scripts : Scripts) : Prop extends done.Recounts errands scripts where
  blamed : ∀ failure, done.result = .error failure → failure.isEngine = true

theorem Execution.Concludes.settles {α : Type} {done : Execution α} {errands : List Errand}
    {scripts : Scripts} (concludes : done.Concludes errands scripts) : done.Settles errands scripts :=
  ⟨concludes.toShows, concludes.blamed⟩

theorem Failure.isEngine_iff {failure : Failure} :
    failure.isEngine = true ↔ ∃ fault, failure = .engine fault := by
  cases failure <;> simp [Failure.isEngine]

/-- The errors of a check are no engine's failures when they are all passed on as others. -/
theorem Failure.isEngine_of_mapError {α ε : Type} {result : Except ε α} {toFailure : ε → Failure}
    {failure : Failure} (other : ∀ e, (toFailure e).isEngine = false)
    (h : result.mapError toFailure = .error failure) : failure.isEngine = false := by
  cases result with
  | ok a => cases h
  | error e =>
    obtain rfl := Except.error.inj h
    exact other e

/-- An execution of one errand ends as its transaction does. -/
theorem Execution.Settles.result_cases {α : Type} {done : Execution α} {errand : Errand}
    {scripts : Scripts} (settles : done.Settles [errand] scripts) :
    (∃ a, done.result = .ok a ∧ (errand.transaction scripts).fault? = none) ∨
      ∃ fault, done.result = .error (.engine fault) ∧
        (errand.transaction scripts).fault? = some fault := by
  have raised := settles.raised
  simp only [Errand.transactions_singleton, List.mem_singleton, exists_eq_left] at raised
  cases h : done.result with
  | ok a =>
    refine Or.inl ⟨a, rfl, Option.eq_none_iff_forall_ne_some.mpr fun fault failed => ?_⟩
    rw [← raised fault, h] at failed
    cases failed
  | error failure =>
    obtain ⟨fault, rfl⟩ := Failure.isEngine_iff.mp (settles.blamed failure h)
    exact Or.inr ⟨fault, rfl, (raised fault).mp h⟩

namespace Action

variable {α β : Type} {first : Action α} {next : α → Action β} {scripts : Scripts}

/-! ## One action after the other -/

theorem bind_apply : (first >>= next) scripts = Action.bind first next scripts := rfl

theorem bind_of_ok {a : α} (h : (first scripts).result = .ok a) :
    (first >>= next) scripts
      = ⟨(next a (first scripts).scripts).result, (next a (first scripts).scripts).scripts,
          (first scripts).trace ++ (next a (first scripts).scripts).trace⟩ := by
  rw [bind_apply]
  simp only [Action.bind, h]

theorem bind_of_error {failure : Failure} (h : (first scripts).result = .error failure) :
    (first >>= next) scripts
      = ⟨.error failure, (first scripts).scripts, (first scripts).trace⟩ := by
  rw [bind_apply]
  simp only [Action.bind, h]

/-- What is made of a result leaves everything else as it is. -/
theorem bind_pure_apply (f : α → β) :
    (first >>= fun a => pure (f a)) scripts
      = ⟨(first scripts).result.map f, (first scripts).scripts, (first scripts).trace⟩ := by
  cases h : (first scripts).result with
  | error failure =>
    rw [bind_of_error h]
    rfl
  | ok a =>
    rw [bind_of_ok h]
    exact congrArg _ (List.append_nil _)

/-- An action behind records in the log. -/
def behind (opening : List LogRecord) (action : Action α) : Action α := fun scripts =>
  { action scripts with trace := opening.map Effect.log ++ (action scripts).trace }

theorem bind_behind (opening : List LogRecord) :
    behind opening first >>= next = behind opening (first >>= next) := by
  funext scripts
  rw [behind]
  cases h : (first scripts).result with
  | error failure =>
    rw [bind_of_error h]
    exact bind_of_error h
  | ok a =>
    rw [bind_of_ok h, ← List.append_assoc]
    exact bind_of_ok h

/-! ## Quiet actions -/

/-- An action that reaches no engine: it yields its result, leaves the scripts as they are, and makes
no more than remarks. -/
def Quiet (action : Action α) (result : Except Failure α) : Prop :=
  ∀ scripts, ∃ remarks : Trace, (∀ effect ∈ remarks, effect.IsRemark) ∧
    action scripts = ⟨result, scripts, remarks⟩

theorem Quiet.events_eq {action : Action α} {result : Except Failure α} (quiet : Quiet action result)
    (scripts : Scripts) : (action scripts).trace.events = [] := by
  obtain ⟨remarks, unseen, h⟩ := quiet scripts
  rw [h]
  exact Trace.events_of_remarks unseen

/-- A quiet action that reports no error. -/
def Silent (action : Action α) (result : Except Failure α) : Prop :=
  ∀ scripts, ∃ asides : Trace, (∀ effect ∈ asides, effect.IsAside) ∧
    action scripts = ⟨result, scripts, asides⟩

namespace Silent

theorem quiet {action : Action α} {result : Except Failure α} (silent : Silent action result) :
    Quiet action result := by
  intro scripts
  obtain ⟨asides, unsaid, h⟩ := silent scripts
  exact ⟨asides, fun effect mem => (unsaid effect mem).isRemark, h⟩

theorem result_eq {action : Action α} {result : Except Failure α} (silent : Silent action result)
    (scripts : Scripts) : (action scripts).result = result := by
  obtain ⟨asides, -, h⟩ := silent scripts
  rw [h]

theorem scripts_eq {action : Action α} {result : Except Failure α} (silent : Silent action result)
    (scripts : Scripts) : (action scripts).scripts = scripts := by
  obtain ⟨asides, -, h⟩ := silent scripts
  rw [h]

theorem events_eq {action : Action α} {result : Except Failure α} (silent : Silent action result)
    (scripts : Scripts) : (action scripts).trace.events = [] :=
  silent.quiet.events_eq scripts

theorem account_eq {action : Action α} {result : Except Failure α} (silent : Silent action result)
    (scripts : Scripts) : (action scripts).trace.account = [] := by
  obtain ⟨asides, unsaid, h⟩ := silent scripts
  rw [h]
  exact Trace.account_of_asides unsaid

theorem pure (a : α) : Silent (Pure.pure a : Action α) (.ok a) :=
  fun _ => ⟨[], by simp, rfl⟩

theorem fail (failure : Failure) : Silent (Action.fail failure : Action α) (.error failure) :=
  fun _ => ⟨[], by simp, rfl⟩

theorem ofExcept {ε : Type} (toFailure : ε → Failure) (result : Except ε α) :
    Silent (Action.ofExcept toFailure result) (result.mapError toFailure) := by
  cases result with
  | ok a => exact pure a
  | error e => exact fail (toFailure e)

theorem ofExcept_id (result : Except Failure α) :
    Silent (Action.ofExcept id result) result := by
  cases result with
  | ok a => exact pure a
  | error failure => exact fail failure

theorem log {level : Logging.Level} {channel : Channel} {message : String}
    (aside : channel ≠ .database ∧ level ≠ .error) : Silent (Action.log level channel message) (.ok ()) := by
  refine fun _ => ⟨[.log ⟨level, channel, message⟩], ?_, rfl⟩
  intro effect h
  obtain rfl := List.mem_singleton.mp h
  exact ⟨_, rfl, aside⟩

/-- What comes after a silent check yields what it yields by itself. -/
theorem result_bind {a : α} (silent : Silent first (.ok a)) (scripts : Scripts) :
    ((first >>= next) scripts).result = (next a scripts).result := by
  rw [bind_of_ok (silent.result_eq scripts), silent.scripts_eq]

theorem bind_error {failure : Failure} (silent : Silent first (.error failure)) :
    Silent (first >>= next) (.error failure) := by
  intro scripts
  obtain ⟨asides, unsaid, h⟩ := silent scripts
  refine ⟨asides, unsaid, ?_⟩
  rw [bind_of_error (silent.result_eq scripts), h]

theorem bind_ok {a : α} {result : Except Failure β} (silent : Silent first (.ok a))
    (rest : Silent (next a) result) : Silent (first >>= next) result := by
  intro scripts
  obtain ⟨asides, unsaid, h⟩ := silent scripts
  obtain ⟨others, unsaid', h'⟩ := rest scripts
  refine ⟨asides ++ others, ?_, ?_⟩
  · rw [List.forall_mem_append]
    exact ⟨unsaid, unsaid'⟩
  · rw [bind_of_ok (silent.result_eq scripts), h, h']

/-- Silent actions one after the other are silent, and their results are chained like checks. -/
theorem bind {result : Except Failure α} {continued : α → Except Failure β}
    (silent : Silent first result) (rest : ∀ a, result = .ok a → Silent (next a) (continued a)) :
    Silent (first >>= next) (result >>= continued) := by
  cases result with
  | error failure => exact silent.bind_error
  | ok a => exact silent.bind_ok (rest a rfl)

/-- A result with a remark about it. -/
theorem remarked {ε : Type} (toFailure : ε → Failure) (result : Except ε α)
    {level : Logging.Level} {channel : Channel} (message : α → String)
    (aside : channel ≠ .database ∧ level ≠ .error) :
    Silent (do
      let a ← Action.ofExcept toFailure result
      Action.log level channel (message a)
      return a) (result.mapError toFailure) := by
  cases result with
  | ok a => exact (pure a).bind_ok ((log aside).bind_ok (pure a))
  | error e => exact (fail (toFailure e)).bind_error

end Silent

/-! ## Actions that run errands -/

variable {errand : Errand} {errands others : List Errand}

/-- Whatever the scripts hold, the engines see the transactions of the errands, and the log tells of
them. -/
def Sends (action : Action α) (errands : List Errand) : Prop :=
  ∀ scripts, (action scripts).Recounts errands scripts

/-- Whatever the scripts hold, the errands are run and only an engine can make the action fail. -/
def Runs (action : Action α) (errands : List Errand) : Prop :=
  ∀ scripts, (action scripts).Settles errands scripts

/-- Whatever the scripts hold, the errands are run, the log tells of them, and only an engine can make
the action fail. -/
def Performs (action : Action α) (errands : List Errand) : Prop :=
  ∀ scripts, (action scripts).Concludes errands scripts

/-- An action that is refused before it reaches an engine, or else performs its errands. -/
def Carries (action : Action α) : Except Failure (List Errand) → Prop
  | .error failure => Silent action (.error failure) ∧ failure.isEngine = false
  | .ok errands => Performs action errands

/-- A silent action that succeeds has no errands to perform. -/
theorem Silent.performs {action : Action α} {a : α} (silent : Silent action (.ok a)) :
    Performs action [] := by
  intro scripts
  refine ⟨⟨⟨?_, silent.scripts_eq scripts, ?_⟩, ?_⟩, ?_⟩
  · rw [silent.events_eq, Errand.transactions, List.flatMap_nil]
  · simp [silent.result_eq, Errand.transactions]
  · rw [silent.account_eq, Errand.transactions]
    exact .nil
  · simp [silent.result_eq]

/-- Errands before something silent that blames no engine. -/
theorem Sends.before_silent (sends : Sends first errands)
    (silent : ∀ a, ∃ result, Silent (next a) result ∧ ∀ fault, result ≠ .error (.engine fault)) :
    Sends (first >>= next) errands := by
  intro scripts
  obtain ⟨⟨events, drained, raised⟩, told⟩ := sends scripts
  cases h : (first scripts).result with
  | error failure =>
    rw [h] at raised
    rw [bind_of_error h]
    exact ⟨⟨events, drained, fun fault => by rw [← raised fault]; simp⟩, told⟩
  | ok a =>
    obtain ⟨result, rest, unblamed⟩ := silent a
    obtain ⟨asides, unsaid, hrest⟩ := rest (first scripts).scripts
    rw [h] at raised
    rw [bind_of_ok h, hrest]
    refine ⟨⟨?_, drained, fun fault => ?_⟩, ?_⟩
    · rw [Trace.events_append, Trace.events_of_asides unsaid, List.append_nil, events]
    · rw [← raised fault]
      exact ⟨fun blamed => absurd blamed (unblamed fault), fun blamed => by cases blamed⟩
    · rwa [Trace.account_append, Trace.account_of_asides unsaid, List.append_nil]

namespace Performs

theorem runs {action : Action α} (performs : Performs action errands) : Runs action errands :=
  fun scripts => (performs scripts).settles

theorem sends {action : Action α} (performs : Performs action errands) : Sends action errands :=
  fun scripts => (performs scripts).toRecounts

/-- Errands behind silent checks. -/
theorem after_silent {a : α} (silent : Silent first (.ok a)) (performs : Performs (next a) errands) :
    Performs (first >>= next) errands := by
  intro scripts
  obtain ⟨asides, unsaid, h⟩ := silent scripts
  obtain ⟨⟨⟨events, drained, raised⟩, told⟩, blamed⟩ := performs scripts
  rw [bind_of_ok (silent.result_eq scripts), h]
  refine ⟨⟨⟨?_, drained, raised⟩, ?_⟩, blamed⟩
  · rw [Trace.events_append, Trace.events_of_asides unsaid, List.nil_append, events]
  · rwa [Trace.account_append, Trace.account_of_asides unsaid, List.nil_append]

/-- Errands before something silent that succeeds. -/
theorem before_silent (performs : Performs first errands)
    (silent : ∀ a, ∃ b, Silent (next a) (.ok b)) : Performs (first >>= next) errands := by
  have sends : Sends (first >>= next) errands := by
    refine performs.sends.before_silent fun a => ?_
    obtain ⟨b, rest⟩ := silent a
    exact ⟨_, rest, fun fault => by simp⟩
  refine fun scripts => ⟨sends scripts, fun failure h => ?_⟩
  cases hfirst : (first scripts).result with
  | error earlier =>
    rw [bind_of_error hfirst] at h
    obtain rfl := Except.error.inj h
    exact (performs scripts).blamed earlier hfirst
  | ok a =>
    obtain ⟨b, rest⟩ := silent a
    rw [bind_of_ok hfirst] at h
    cases (rest.result_eq _).symm.trans h

/-- An errand and then others, which are run only when the first one was committed. -/
theorem bind (performs : Performs first [errand]) (rest : ∀ a, Performs (next a) others) :
    Performs (first >>= next) (errand :: others) := by
  intro scripts
  have events := (performs scripts).events_eq
  have told := (performs scripts).told
  have drained := (performs scripts).scripts_eq
  rw [Errand.transactions_singleton, List.flatMap_singleton] at events
  rw [Errand.transactions_singleton] at told
  rw [Errand.drainAll_singleton] at drained
  rcases (performs scripts).settles.result_cases with ⟨a, h, succeeded⟩ | ⟨fault, h, failed⟩
  · have committed := Errand.committed_iff_fault?.mpr succeeded
    obtain ⟨⟨⟨events', drained', raised'⟩, told'⟩, blamed'⟩ := rest a (errand.drain scripts)
    rw [bind_of_ok h, drained]
    refine ⟨⟨⟨?_, ?_, fun fault => ?_⟩, ?_⟩, blamed'⟩
    · rw [Trace.events_append, events, events', Errand.transactions, if_pos committed,
        List.flatMap_cons]
    · rw [Errand.drainAll, if_pos committed]
      exact drained'
    · rw [Errand.transactions, if_pos committed, List.exists_mem_cons_iff, succeeded]
      simpa using raised' fault
    · rw [Trace.account_append, Errand.transactions, if_pos committed]
      exact .cons (Chronicle.single_iff.mp told) told'
  · have aborted : ¬ (errand.transaction scripts).committed = true := by
      rw [Errand.committed_iff_fault?, failed]
      simp
    rw [bind_of_error h]
    refine ⟨⟨⟨?_, ?_, fun other => ?_⟩, ?_⟩, fun failure hfailure => ?_⟩
    · rw [Errand.transactions, if_neg aborted, List.flatMap_singleton, events]
    · rw [Errand.drainAll, if_neg aborted]
      exact drained
    · rw [Errand.transactions, if_neg aborted]
      simp [failed]
    · rwa [Errand.transactions, if_neg aborted]
    · obtain rfl := Except.error.inj hfailure
      rfl

end Performs

namespace Carries

/-- What comes after silent success carries its plan on. -/
theorem after_silent {a : α} {plan : Except Failure (List Errand)} (silent : Silent first (.ok a))
    (carries : Carries (next a) plan) : Carries (first >>= next) plan := by
  cases plan with
  | error failure => exact ⟨silent.bind_ok carries.1, carries.2⟩
  | ok errands => exact Performs.after_silent silent carries

/-- Checks and then what carries a plan carry the chain of both. -/
theorem bind {result : Except Failure α} {plan : α → Except Failure (List Errand)}
    (silent : Silent first result) (own : ∀ failure, result = .error failure → failure.isEngine = false)
    (rest : ∀ a, result = .ok a → Carries (next a) (plan a)) :
    Carries (first >>= next) (result >>= plan) := by
  cases result with
  | error failure => exact ⟨silent.bind_error, own failure rfl⟩
  | ok a =>
    rw [ok_bind]
    exact after_silent silent (rest a rfl)

end Carries

/-! ## Statements in a transaction -/

/-- Statements of an errand that have been sent while a transaction is open. -/
structure Execution.Pursues (done : Execution α) (errand : Errand) (scripts : Scripts) : Prop where
  events_eq : done.trace.events = (errand.transaction scripts).sent.map errand.engine.executed
  scripts_eq : done.scripts = errand.drain scripts
  failed : ∀ failure, done.result = .error failure ↔
    ∃ fault, (errand.transaction scripts).fault? = some fault ∧ failure = .engine fault

/-- An action that sends the statements of an errand while a transaction is open. -/
def Executes (body : Action α) (errand : Errand) : Prop :=
  ∀ scripts, Execution.Pursues (body scripts) errand scripts

/-- The report of a failure, when an engine is to blame and the failure is a database error. -/
def reports (message : EngineFault → String) : Except Failure α → List LogRecord
  | .error (.engine fault) => if fault.isReported then [⟨.error, .database, message fault⟩] else []
  | _ => []

theorem isAccount_of_mem_reports (message : EngineFault → String) (result : Except Failure α) :
    ∀ record ∈ reports message result, record.isAccount = true := by
  unfold reports
  split
  · split
    · exact List.forall_mem_singleton.mpr rfl
    · exact List.forall_mem_nil _
  · exact List.forall_mem_nil _

/-- Reporting a failure adds its report and changes nothing else. -/
theorem reporting_eq (message : EngineFault → String) (body : Action α) (scripts : Scripts) :
    reporting message body scripts
      = ⟨(body scripts).result, (body scripts).scripts,
          (body scripts).trace ++ (reports message (body scripts).result).map Effect.log⟩ := by
  unfold reporting
  generalize body scripts = done
  obtain ⟨result, after, trace⟩ := done
  dsimp only
  split
  · rename_i fault
    rw [reports]
    split
    · rfl
    · rw [List.map_nil, List.append_nil]
  · rename_i other
    rw [reports, List.map_nil, List.append_nil]
    exact other

/-- A transaction around the statements of an errand is closed as their outcomes ask for. -/
theorem Executes.transaction_eq {body : Action α} (executes : Executes body errand)
    (scripts : Scripts) :
    ∃ trace, Trace.events trace = (errand.transaction scripts).events ∧
      Trace.account trace = (body scripts).trace.account ∧
        transaction errand.engine body scripts
          = ⟨(body scripts).result, errand.drain scripts, trace⟩ := by
  obtain ⟨events, drained, failed⟩ := executes scripts
  refine ⟨.event (.begin errand.engine.name) ::
    ((body scripts).trace ++ [.event (errand.transaction scripts).closing]), ?_, ?_, ?_⟩
  · rw [Trace.events_event, Trace.events_append, events]
    rfl
  · rw [Trace.account_event, Trace.account_append, Trace.account_event, Trace.account_nil,
      List.append_nil]
  · rw [← drained]
    cases h : (body scripts).result with
    | ok a =>
      have succeeded : (errand.transaction scripts).fault? = none := by
        rw [Option.eq_none_iff_forall_ne_some]
        intro fault hfault
        cases h.symm.trans ((failed (.engine fault)).mpr ⟨fault, hfault, rfl⟩)
      rw [Errand.closing_of_succeeded succeeded]
      simp only [transaction, h]
    | error failure =>
      obtain ⟨fault, hfault, -⟩ := (failed failure).mp h
      rw [Errand.closing_of_failed hfault]
      simp only [transaction, h]

/-- The notices of a transaction and the report of its failure are what is to be told of it. -/
theorem Executes.toldBy {body : Action α} (executes : Executes body errand)
    {message : EngineFault → String}
    (words : ∀ fault, LogRecord.Reports ⟨.error, .database, message fault⟩ fault) (scripts : Scripts) :
    (errand.transaction scripts).ToldBy ((errand.transaction scripts).sent.map Sent.notice
      ++ reports message (body scripts).result) := by
  have failed := (executes scripts).failed
  cases h : (errand.transaction scripts).fault? with
  | none =>
    have silent : reports message (body scripts).result = [] := by
      cases result : (body scripts).result with
      | ok a => rfl
      | error failure =>
        obtain ⟨fault, hfault, -⟩ := (failed failure).mp result
        cases h.symm.trans hfault
    rw [silent, List.append_nil]
    refine .ended ?_
    rw [Transaction.reportedFault?, h]
    rfl
  | some fault =>
    have rolledBack : (errand.transaction scripts).committed = false := by
      rw [← Bool.not_eq_true, Errand.committed_iff_fault?, h]
      simp
    rw [(failed (.engine fault)).mpr ⟨fault, h, rfl⟩, reports]
    cases reported : fault.isReported with
    | true =>
      refine .failed rolledBack ?_ (words fault)
      rw [Transaction.reportedFault?, h, Option.filter_some, if_pos reported]
    | false =>
      rw [if_neg Bool.false_ne_true, List.append_nil]
      refine .ended ?_
      rw [Transaction.reportedFault?, h, Option.filter_some, if_neg (Bool.eq_false_iff.mp reported)]

/-- Statements in a transaction of their own, with a report of their failure, are one errand. Their
notices are in the log when they are sent, or before the transaction is begun. -/
theorem Executes.performs {body : Action α} (executes : Executes body errand)
    {message : EngineFault → String} {opening : List LogRecord}
    (words : ∀ fault, LogRecord.Reports ⟨.error, .database, message fault⟩ fault)
    (noticed : ∀ scripts, Trace.account (opening.map Effect.log ++ (body scripts).trace)
      = (errand.transaction scripts).sent.map Sent.notice) :
    Performs (behind opening (reporting message (transaction errand.engine body))) [errand] := by
  intro scripts
  obtain ⟨trace, events, account, enclosed⟩ := executes.transaction_eq scripts
  have failed := (executes scripts).failed
  have told := executes.toldBy words scripts
  rw [behind, reporting_eq, enclosed]
  refine ⟨⟨⟨?_, ?_, fun fault => ?_⟩, ?_⟩, fun failure h => ?_⟩
  · rw [Errand.transactions_singleton, List.flatMap_singleton, Trace.events_append,
      Trace.events_append, Trace.events_logs, Trace.events_logs, List.nil_append, List.append_nil,
      events]
  · rw [Errand.drainAll_singleton]
  · rw [Errand.transactions_singleton, failed]
    simp
  · rw [Errand.transactions_singleton, ← List.append_assoc, Trace.account_append,
      Trace.account_logs (isAccount_of_mem_reports message _), Trace.account_append, account,
      ← Trace.account_append, noticed]
    exact Chronicle.single_iff.mpr told
  · obtain ⟨fault, -, rfl⟩ := (failed failure).mp h
    rfl

/-- What a reported transaction yields is what is done in it. -/
theorem Executes.result_eq {body : Action α} (executes : Executes body errand)
    (message : EngineFault → String) (scripts : Scripts) :
    (reporting message (transaction errand.engine body) scripts).result = (body scripts).result := by
  obtain ⟨trace, -, -, enclosed⟩ := executes.transaction_eq scripts
  rw [reporting_eq, enclosed]

/-! ## The ways of sending statements -/

/-- A statement that yields what can be made of its outcome is an errand of its own. -/
theorem executes_single {body : Action α} {engine : Engine} {sent : Sent} {yield : Outcome → α}
    (result : ∀ scripts, (body scripts).result
      = match (scripts.next engine.script).fault? with
        | some fault => .error (.engine fault)
        | none => .ok (yield (scripts.next engine.script)))
    (advanced : ∀ scripts, (body scripts).scripts = scripts.advance engine.script)
    (events : ∀ scripts, (body scripts).trace.events = [engine.executed sent]) :
    Executes body ⟨engine, [sent]⟩ := by
  intro scripts
  refine ⟨?_, ?_, fun failure => ?_⟩
  · rw [Errand.sent_single]
    exact events scripts
  · rw [Errand.drain_single]
    exact advanced scripts
  · rw [Errand.fault?_single, result]
    cases (scripts.next engine.script).fault? <;> simp [eq_comm]

theorem result_execute (engine : Engine) (sql : String) (bindings : Option (List Value))
    (scripts : Scripts) :
    (execute engine sql bindings scripts).result
      = match (scripts.next engine.script).fault? with
        | some fault => .error (.engine fault)
        | none => .ok (scripts.next engine.script) := by
  unfold execute
  cases scripts.next engine.script <;> rfl

theorem executes_execute (engine : Engine) (sql : String) (bindings : Option (List Value)) :
    Executes (execute engine sql bindings) ⟨engine, [⟨sql, bindings⟩]⟩ :=
  @executes_single _ _ _ _ (fun outcome => outcome) (result_execute engine sql bindings)
    (fun _ => rfl) fun _ => rfl

end Action

namespace Prepared

open TableModel.Action

variable (engine : Engine) (statement : Prepared) (statements : List Prepared) (scripts : Scripts)

theorem executeOn_eq :
    statement.executeOn engine scripts
      = ⟨(scripts.next engine.script).verdict, scripts.advance engine.script,
        [.log statement.sent.notice, .event (engine.executed statement.sent)]⟩ := by
  simp only [executeOn, bind_apply, Action.bind, log, emit, execute]
  cases scripts.next engine.script <;> rfl

theorem executes_executeOn (statement : Prepared) :
    Executes (statement.executeOn engine) ⟨engine, [statement.sent]⟩ :=
  executes_single (fun scripts => by rw [executeOn_eq]; rfl) (fun scripts => by rw [executeOn_eq])
    fun scripts => by rw [executeOn_eq]; rfl

/-- Prepared statements in one transaction on an engine. -/
def batchErrand : Errand := ⟨engine, statements.map sent⟩

/-- Statements one after the other are sent as far as they get, and yield the verdict on that. -/
theorem executeAll_eq :
    ∃ trace, Trace.events trace
        = ((batchErrand engine statements).transaction scripts).sent.map engine.executed ∧
      Trace.account trace
        = ((batchErrand engine statements).transaction scripts).sent.map Sent.notice ∧
      executeAll engine statements scripts
        = ⟨((batchErrand engine statements).transaction scripts).verdict,
            (batchErrand engine statements).drain scripts, trace⟩ := by
  induction statements generalizing scripts with
  | nil => exact ⟨[], rfl, rfl, rfl⟩
  | cons statement rest ih =>
    have now := executeOn_eq engine statement scripts
    rw [executeAll, batchErrand, List.map_cons]
    cases houtcome : (scripts.next engine.script).fault? with
    | some fault =>
      -- nothing follows a failure
      rw [Outcome.verdict, houtcome] at now
      have failed := Errand.fault?_single engine statement.sent scripts
      rw [houtcome] at failed
      rw [Errand.transaction_of_failed _ _ _ houtcome, Errand.drain_of_failed _ _ _ houtcome,
        Errand.sent_single, Transaction.verdict_of_failed failed,
        bind_of_error (congrArg Execution.result now), now]
      exact ⟨_, rfl, Trace.account_noticed statement.sent _ _, rfl⟩
    | none =>
      rw [Outcome.verdict, houtcome] at now
      obtain ⟨trace, events, account, others⟩ := ih (scripts.advance engine.script)
      rw [Errand.sent_of_succeeded _ _ _ houtcome, Errand.drain_of_succeeded _ _ _ houtcome,
        Errand.verdict_of_first_succeeded _ _ _ houtcome,
        bind_of_ok (congrArg Execution.result now), now]
      refine ⟨.log statement.sent.notice :: .event (engine.executed statement.sent) :: trace, ?_, ?_, ?_⟩
      · rw [Trace.events_log, Trace.events_event, events]
        rfl
      · rw [Trace.account_noticed, account]
        rfl
      · rw [bind_pure_apply, others]
        rfl

theorem executes_executeAll :
    Executes (executeAll engine statements) (batchErrand engine statements) := by
  intro scripts
  obtain ⟨trace, events, -, h⟩ := executeAll_eq engine statements scripts
  rw [h]
  exact ⟨events, rfl, fun failure => Transaction.verdict_eq_error⟩

/-! ## Statements, batches and raw statements by themselves -/

/-- A prepared statement in a transaction of its own. -/
def errand : Errand := ⟨statement.engine, [statement.sent]⟩

theorem performs_run : Performs statement.run [statement.errand] := by
  have words : ∀ fault : EngineFault, LogRecord.Reports ⟨.error, .database,
      "Statement failed: " ++ statement.sql ++ ": " ++ fault.message⟩ fault := fun fault =>
    .of_words "Statement failed: " (by decide) ⟨_, by simp only [String.append_assoc]; rfl⟩ ⟨_, rfl⟩
  have noticed : ∀ scripts, Trace.account
      ([].map Effect.log ++ (statement.executeOn statement.engine scripts).trace)
        = (statement.errand.transaction scripts).sent.map Sent.notice := fun scripts => by
    rw [executeOn_eq, errand, Errand.sent_single]
    exact Trace.account_noticed statement.sent _ []
  exact (executes_executeOn statement.engine statement).performs words noticed

theorem result_run :
    (statement.run scripts).result = (scripts.next statement.engine.script).verdict := by
  rw [run, (executes_executeOn statement.engine statement).result_eq, executeOn_eq]

end Prepared

namespace Engine

open TableModel.Action

variable (engine : Engine) (statements : List Prepared) (scripts : Scripts)

theorem performs_batch : Performs (engine.batch statements) [Prepared.batchErrand engine statements] := by
  have words : ∀ fault : EngineFault, LogRecord.Reports ⟨.error, .database,
      "Batch of " ++ toString statements.length ++ " statements rolled back: " ++ fault.message⟩ fault :=
    fun fault =>
      .of_words "Batch of " (by decide) ⟨_, by simp only [String.append_assoc]; rfl⟩ ⟨_, rfl⟩
  have noticed : ∀ scripts, Trace.account
      ([].map Effect.log ++ (Prepared.executeAll engine statements scripts).trace)
        = ((Prepared.batchErrand engine statements).transaction scripts).sent.map Sent.notice :=
    fun scripts => by
      obtain ⟨trace, -, account, h⟩ := Prepared.executeAll_eq engine statements scripts
      rw [h]
      exact account
  exact (Prepared.executes_executeAll engine statements).performs words noticed

theorem result_batch :
    (engine.batch statements scripts).result
      = ((Prepared.batchErrand engine statements).transaction scripts).verdict := by
  obtain ⟨trace, -, -, h⟩ := Prepared.executeAll_eq engine statements scripts
  have result := (Prepared.executes_executeAll engine statements).result_eq
    (fun fault => "Batch of " ++ toString statements.length ++ " statements rolled back: "
      ++ fault.message) scripts
  rw [h] at result
  exact result

/-- A raw statement in a transaction of its own. -/
def rawErrand (sql : String) : Errand := ⟨engine, [⟨sql, none⟩]⟩

theorem performs_exec (sql : String) : Performs (engine.exec sql) [engine.rawErrand sql] := by
  have words : ∀ fault : EngineFault, LogRecord.Reports ⟨.error, .database,
      "Raw SQL failed: " ++ sql ++ ": " ++ fault.message⟩ fault := fun fault =>
    .of_words "Raw SQL failed: " (by decide) ⟨_, by simp only [String.append_assoc]; rfl⟩ ⟨_, rfl⟩
  have noticed : ∀ scripts, Trace.account ([Sent.notice ⟨sql, none⟩].map Effect.log
      ++ (execute engine sql none scripts).trace)
        = ((engine.rawErrand sql).transaction scripts).sent.map Sent.notice := fun scripts => by
    rw [rawErrand, Errand.sent_single]
    exact Trace.account_noticed ⟨sql, none⟩ _ []
  have performs := (executes_execute engine sql none).performs words noticed
  -- the notice stands before the transaction, and what comes after it adds nothing
  have whole := performs.before_silent fun _ => ⟨(), Silent.pure ()⟩
  rwa [bind_behind] at whole

end Engine

end TableModel
