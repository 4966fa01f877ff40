/-
# TableModel.Proofs.Database.Transaction — transactions, and how far their statements get

Transactions leave no object behind: what reaches an engine is a list of events. Here a transaction
is an object again, with the engine it was begun on, the statements it sent there, each with the
outcome that the engine had for it, and the way it was closed; `Transaction.events` is what it looks
like from the engine.

An *errand* is what is asked for before anything happens: statements to be sent in one transaction.
The statements get as far as the first failure, and errands that follow each other get as far as the
first transaction that is rolled back. What is proved about transactions elsewhere uses these laws
and does not look at scripts again.
-/
import TableModel.Database.Prepared

namespace TableModel

/-! ## Statements and their outcomes -/

/-- The fault of an outcome that is a failure. -/
def Outcome.fault? : Outcome → Option EngineFault
  | .failed fault => some fault
  | _ => none

theorem Outcome.fault?_eq_some {outcome : Outcome} {fault : EngineFault} :
    outcome.fault? = some fault ↔ outcome = .failed fault := by
  cases outcome <;> simp [fault?]

/-- What a statement with an outcome yields. -/
def Outcome.verdict (outcome : Outcome) : Except Failure QueryResult :=
  match outcome.fault? with
  | some fault => .error (.engine fault)
  | none => .ok (QueryResult.ofOutcome outcome)

/-- A statement as it reaches an engine; a raw statement has no bindings. -/
structure Sent where
  sql : String
  bindings : Option (List Value)

/-- A prepared statement as it reaches an engine. -/
def Prepared.sent (statement : Prepared) : Sent := ⟨statement.sql, some statement.bindings⟩

/-- A statement that was sent, with the outcome that the engine had for it. -/
structure Attempt where
  sent : Sent
  outcome : Outcome

namespace Scripts

/-- The next outcomes of a script, as many as are asked for. -/
def upcoming (scripts : Scripts) (script : Nat) : Nat → List Outcome
  | 0 => []
  | n + 1 => scripts.next script :: (scripts.advance script).upcoming script n

/-- The scripts after one of them has given some outcomes. -/
def skip (scripts : Scripts) (script : Nat) : Nat → Scripts
  | 0 => scripts
  | n + 1 => (scripts.advance script).skip script n

end Scripts

namespace Engine

/-- The event of a statement on an engine. -/
def executed (engine : Engine) (sent : Sent) : Event :=
  .execute engine.name sent.sql sent.bindings

/-- How far statements get on an engine: each takes the next outcome, and after a failure none is
sent any more. -/
def attempts (engine : Engine) (scripts : Scripts) : List Sent → List Attempt
  | [] => []
  | sent :: rest =>
    ⟨sent, scripts.next engine.script⟩ ::
      if (scripts.next engine.script).fault?.isSome then []
      else engine.attempts (scripts.advance engine.script) rest

/-- Statements, each with the outcome that awaits it on an engine, as if none could fail. -/
def awaited (engine : Engine) (scripts : Scripts) : List Sent → List Attempt
  | [] => []
  | sent :: rest =>
    ⟨sent, scripts.next engine.script⟩
      :: engine.awaited (scripts.advance engine.script) rest

variable {engine : Engine} {scripts : Scripts} {statements : List Sent}

theorem attempts_singleton (sent : Sent) :
    engine.attempts scripts [sent] = [⟨sent, scripts.next engine.script⟩] := by
  rw [attempts, attempts, ite_self]

theorem attempts_of_failed {fault : EngineFault} (sent : Sent) (rest : List Sent)
    (failed : (scripts.next engine.script).fault? = some fault) :
    engine.attempts scripts (sent :: rest) = [⟨sent, scripts.next engine.script⟩] := by
  rw [attempts, failed]
  rfl

theorem attempts_of_succeeded (sent : Sent) (rest : List Sent)
    (succeeded : (scripts.next engine.script).fault? = none) :
    engine.attempts scripts (sent :: rest)
      = ⟨sent, scripts.next engine.script⟩
        :: engine.attempts (scripts.advance engine.script) rest := by
  rw [attempts, succeeded]
  rfl

/-- The statements that were sent are the first ones, in their order. -/
theorem attempts_prefix :
    (engine.attempts scripts statements).map Attempt.sent <+: statements := by
  induction statements generalizing scripts with
  | nil => exact List.prefix_refl _
  | cons sent rest ih =>
    rw [attempts, List.map_cons, List.prefix_cons_inj]
    split
    · exact List.nil_prefix
    · exact ih

/-- The outcomes are those that the engine's script holds, in their order. -/
theorem outcomes_attempts :
    (engine.attempts scripts statements).map Attempt.outcome
      = scripts.upcoming engine.script (engine.attempts scripts statements).length := by
  induction statements generalizing scripts with
  | nil => rfl
  | cons sent rest ih =>
    rw [attempts, List.map_cons, List.length_cons, Scripts.upcoming]
    split
    · rfl
    · rw [ih]

/-- Statements of which none failed have all been sent. -/
theorem sent_attempts_of_succeeded
    (succeeded : ∀ attempt ∈ engine.attempts scripts statements, attempt.outcome.fault? = none) :
    (engine.attempts scripts statements).map Attempt.sent = statements := by
  induction statements generalizing scripts with
  | nil => rfl
  | cons sent rest ih =>
    rw [attempts, List.forall_mem_cons] at succeeded
    obtain ⟨first, others⟩ := succeeded
    rw [attempts, List.map_cons]
    simp only [first, Option.isSome_none, Bool.false_eq_true, if_false] at others ⊢
    rw [ih others]

/-- A failure is the only one: no statement is sent after it, and none has failed before. -/
theorem findSome?_of_failed {attempt : Attempt} {fault : EngineFault}
    (sent : attempt ∈ engine.attempts scripts statements)
    (failed : attempt.outcome.fault? = some fault) :
    ((engine.attempts scripts statements).map Attempt.outcome).findSome? Outcome.fault?
      = some fault := by
  induction statements generalizing scripts with
  | nil => simp [attempts] at sent
  | cons first rest ih =>
    rw [attempts] at sent ⊢
    rw [List.map_cons, List.findSome?_cons]
    rcases List.mem_cons.mp sent with rfl | later
    · rw [failed]
    · cases h : (scripts.next engine.script).fault? with
      | some earlier =>
        rw [h] at later
        simp at later
      | none =>
        rw [h] at later
        exact ih later

/-- With only successes to come, every statement is sent and none fails. -/
theorem attempts_of_awaited_succeed
    (succeed : ∀ attempt ∈ engine.awaited scripts statements, attempt.outcome.fault? = none) :
    engine.attempts scripts statements = engine.awaited scripts statements := by
  induction statements generalizing scripts with
  | nil => rfl
  | cons sent rest ih =>
    rw [awaited, List.forall_mem_cons] at succeed
    obtain ⟨first, others⟩ := succeed
    rw [attempts_of_succeeded sent rest first, awaited, ih others]

/-- With the first failure to come for one of the statements, they are sent up to that one. -/
theorem attempts_of_awaited_fails {k : Nat} {attempt : Attempt} {fault : EngineFault}
    (at_k : (engine.awaited scripts statements)[k]? = some attempt)
    (fails : attempt.outcome.fault? = some fault)
    (before : ∀ earlier ∈ (engine.awaited scripts statements).take k,
      earlier.outcome.fault? = none) :
    engine.attempts scripts statements = (engine.awaited scripts statements).take (k + 1) := by
  induction statements generalizing scripts k with
  | nil => simp [awaited] at at_k
  | cons sent rest ih =>
    rw [awaited] at at_k before ⊢
    rw [List.take_succ_cons]
    cases k with
    | zero =>
      rw [List.getElem?_cons_zero, Option.some.injEq] at at_k
      subst at_k
      rw [attempts_of_failed sent rest fails, List.take_zero]
    | succ k =>
      rw [List.take_succ_cons, List.forall_mem_cons] at before
      obtain ⟨first, others⟩ := before
      rw [List.getElem?_cons_succ] at at_k
      rw [attempts_of_succeeded sent rest first, ih at_k others]

end Engine

/-! ## Transactions -/

/-- A transaction: the engine it was begun on, the statements it sent there, and whether it was
committed or rolled back. -/
structure Transaction where
  engine : Engine
  attempts : List Attempt
  committed : Bool

namespace Transaction

/-- The statements that were sent. -/
def sent (transaction : Transaction) : List Sent :=
  transaction.attempts.map Attempt.sent

/-- The outcomes of the statements. -/
def outcomes (transaction : Transaction) : List Outcome :=
  transaction.attempts.map Attempt.outcome

/-- Every statement that was sent succeeded. -/
def Succeeded (transaction : Transaction) : Prop :=
  ∀ outcome ∈ transaction.outcomes, outcome.fault? = none

/-- The event that closes a transaction. -/
def closing (transaction : Transaction) : Event :=
  if transaction.committed then .commit transaction.engine.name
  else .rollback transaction.engine.name

/-- A transaction as it is seen from the engine: it is begun, sends its statements, and is closed. -/
def events (transaction : Transaction) : List Event :=
  .begin transaction.engine.name ::
    (transaction.sent.map transaction.engine.executed ++ [transaction.closing])

/-- The failure of a transaction, if one of its statements failed. -/
def fault? (transaction : Transaction) : Option EngineFault :=
  transaction.outcomes.findSome? Outcome.fault?

/-- What a transaction yields: a result for each statement, or the failure of one. -/
def verdict (transaction : Transaction) : Except Failure (List QueryResult) :=
  match transaction.fault? with
  | some fault => .error (.engine fault)
  | none => .ok (transaction.outcomes.map QueryResult.ofOutcome)

theorem fault?_eq_none {transaction : Transaction} :
    transaction.fault? = none ↔ transaction.Succeeded :=
  List.findSome?_eq_none_iff

theorem verdict_of_succeeded {transaction : Transaction} (h : transaction.fault? = none) :
    transaction.verdict = .ok (transaction.outcomes.map QueryResult.ofOutcome) := by
  rw [verdict, h]

theorem verdict_of_failed {transaction : Transaction} {fault : EngineFault}
    (h : transaction.fault? = some fault) : transaction.verdict = .error (.engine fault) := by
  rw [verdict, h]

theorem verdict_eq_error {transaction : Transaction} {failure : Failure} :
    transaction.verdict = .error failure ↔
      ∃ fault, transaction.fault? = some fault ∧ failure = .engine fault := by
  cases h : transaction.fault? with
  | none => simp [verdict_of_succeeded h]
  | some fault => simp [verdict_of_failed h, eq_comm]

end Transaction

/-- A statement in a transaction of its own, closed as its outcome asks for. -/
def Attempt.alone (engine : Engine) (attempt : Attempt) : Transaction :=
  ⟨engine, [attempt], attempt.outcome.fault?.isNone⟩

/-- Transactions one after the other take their outcomes from the scripts. -/
def Scripts.Serve : Scripts → List Transaction → Prop
  | _, [] => True
  | scripts, transaction :: rest =>
    transaction.outcomes
        = scripts.upcoming transaction.engine.script transaction.attempts.length ∧
      (scripts.skip transaction.engine.script transaction.attempts.length).Serve rest

/-! ## Errands -/

theorem mem_take_succ {α : Type} {items : List α} {k : Nat} {a : α} (h : items[k]? = some a) :
    a ∈ items.take (k + 1) := by
  refine List.mem_of_getElem? (i := k) ?_
  rw [List.getElem?_take_of_lt (Nat.lt_succ_self k), h]

/-- Statements to be sent to an engine in one transaction. -/
structure Errand where
  engine : Engine
  statements : List Sent

namespace Errand

/-- The transaction of an errand, which is committed when no statement has failed. -/
def transaction (errand : Errand) (scripts : Scripts) : Transaction where
  engine := errand.engine
  attempts := errand.engine.attempts scripts errand.statements
  committed := (errand.engine.attempts scripts errand.statements).all
    fun attempt => attempt.outcome.fault?.isNone

/-- The scripts after the transaction of an errand. -/
def drain (errand : Errand) (scripts : Scripts) : Scripts :=
  scripts.skip errand.engine.script (errand.transaction scripts).attempts.length

/-- The transactions of errands, one after the other; after one that is rolled back none is begun
any more. -/
def transactions : List Errand → Scripts → List Transaction
  | [], _ => []
  | errand :: rest, scripts =>
    errand.transaction scripts ::
      if (errand.transaction scripts).committed then transactions rest (errand.drain scripts)
      else []

/-- The scripts after the transactions of errands. -/
def drainAll : List Errand → Scripts → Scripts
  | [], scripts => scripts
  | errand :: rest, scripts =>
    if (errand.transaction scripts).committed then drainAll rest (errand.drain scripts)
    else errand.drain scripts

variable {errand : Errand} {errands : List Errand} {scripts : Scripts}

/-- A transaction is committed exactly when all of its statements succeeded. -/
theorem committed_iff :
    (errand.transaction scripts).committed = true ↔ (errand.transaction scripts).Succeeded := by
  simp [transaction, Transaction.Succeeded, Transaction.outcomes]

theorem sent_prefix : (errand.transaction scripts).sent <+: errand.statements :=
  Engine.attempts_prefix

/-- A transaction is committed exactly when it has sent all statements of its errand and each of
them succeeded. -/
theorem committed_iff_whole :
    (errand.transaction scripts).committed = true ↔
      (errand.transaction scripts).sent = errand.statements ∧
        (errand.transaction scripts).Succeeded := by
  rw [committed_iff]
  constructor
  · intro succeeded
    refine ⟨Engine.sent_attempts_of_succeeded ?_, succeeded⟩
    exact List.forall_mem_map.mp succeeded
  · exact fun h => h.2

theorem committed_iff_fault? :
    (errand.transaction scripts).committed = true ↔
      (errand.transaction scripts).fault? = none := by
  rw [committed_iff, Transaction.fault?_eq_none]

/-- The failure of a transaction is the one of the statement that failed. -/
theorem fault?_eq_some {fault : EngineFault} :
    (errand.transaction scripts).fault? = some fault ↔
      ∃ attempt ∈ (errand.transaction scripts).attempts, attempt.outcome = .failed fault := by
  constructor
  · intro h
    obtain ⟨outcome, hmem, failed⟩ := List.exists_of_findSome?_eq_some h
    obtain ⟨attempt, sent, rfl⟩ := List.mem_map.mp hmem
    exact ⟨attempt, sent, Outcome.fault?_eq_some.mp failed⟩
  · rintro ⟨attempt, sent, failed⟩
    exact Engine.findSome?_of_failed sent (Outcome.fault?_eq_some.mpr failed)

theorem transaction_of_awaited_succeed
    (succeed : ∀ attempt ∈ errand.engine.awaited scripts errand.statements,
      attempt.outcome.fault? = none) :
    errand.transaction scripts
      = ⟨errand.engine, errand.engine.awaited scripts errand.statements, true⟩ := by
  have sent := Engine.attempts_of_awaited_succeed succeed
  rw [transaction, sent, Transaction.mk.injEq]
  refine ⟨rfl, rfl, ?_⟩
  rw [List.all_eq_true]
  intro attempt h
  rw [succeed attempt h]
  rfl

theorem transaction_of_awaited_fails {k : Nat} {attempt : Attempt} {fault : EngineFault}
    (at_k : (errand.engine.awaited scripts errand.statements)[k]? = some attempt)
    (fails : attempt.outcome.fault? = some fault)
    (before : ∀ earlier ∈ (errand.engine.awaited scripts errand.statements).take k,
      earlier.outcome.fault? = none) :
    errand.transaction scripts
      = ⟨errand.engine, (errand.engine.awaited scripts errand.statements).take (k + 1), false⟩ := by
  have sent := Engine.attempts_of_awaited_fails at_k fails before
  have last := mem_take_succ at_k
  rw [transaction, sent, Transaction.mk.injEq]
  refine ⟨rfl, rfl, ?_⟩
  rw [List.all_eq_false]
  refine ⟨attempt, last, ?_⟩
  rw [fails]
  simp

theorem fault?_of_awaited_fails {k : Nat} {attempt : Attempt} {fault : EngineFault}
    (at_k : (errand.engine.awaited scripts errand.statements)[k]? = some attempt)
    (fails : attempt.outcome.fault? = some fault)
    (before : ∀ earlier ∈ (errand.engine.awaited scripts errand.statements).take k,
      earlier.outcome.fault? = none) :
    (errand.transaction scripts).fault? = some fault := by
  refine fault?_eq_some.mpr ⟨attempt, ?_, Outcome.fault?_eq_some.mp fails⟩
  rw [transaction_of_awaited_fails at_k fails before]
  exact mem_take_succ at_k

/-! A single statement takes the next outcome, whatever that is. -/

theorem transaction_single (engine : Engine) (sent : Sent) (scripts : Scripts) :
    transaction ⟨engine, [sent]⟩ scripts
      = Attempt.alone engine ⟨sent, scripts.next engine.script⟩ := by
  rw [transaction, Engine.attempts_singleton, Attempt.alone, List.all_cons, List.all_nil,
    Bool.and_true]

theorem sent_single (engine : Engine) (sent : Sent) (scripts : Scripts) :
    (transaction ⟨engine, [sent]⟩ scripts).sent = [sent] := by
  rw [transaction_single]
  rfl

theorem drain_single (engine : Engine) (sent : Sent) (scripts : Scripts) :
    drain ⟨engine, [sent]⟩ scripts = scripts.advance engine.script := by
  rw [drain, transaction_single]
  rfl

theorem fault?_single (engine : Engine) (sent : Sent) (scripts : Scripts) :
    (transaction ⟨engine, [sent]⟩ scripts).fault? = (scripts.next engine.script).fault? := by
  rw [transaction_single, Transaction.fault?]
  exact List.findSome?_singleton

/-! The first of several statements decides whether the others follow. -/

section

variable (engine : Engine) (sent : Sent) (rest : List Sent)

theorem transaction_of_failed {fault : EngineFault}
    (failed : (scripts.next engine.script).fault? = some fault) :
    transaction ⟨engine, sent :: rest⟩ scripts = transaction ⟨engine, [sent]⟩ scripts := by
  rw [transaction, transaction, Engine.attempts_of_failed sent rest failed,
    Engine.attempts_singleton]

theorem drain_of_failed {fault : EngineFault}
    (failed : (scripts.next engine.script).fault? = some fault) :
    drain ⟨engine, sent :: rest⟩ scripts = scripts.advance engine.script := by
  rw [drain, transaction_of_failed engine sent rest failed]
  exact drain_single engine sent scripts

theorem sent_of_succeeded (succeeded : (scripts.next engine.script).fault? = none) :
    (transaction ⟨engine, sent :: rest⟩ scripts).sent
      = sent :: (transaction ⟨engine, rest⟩ (scripts.advance engine.script)).sent :=
  congrArg (List.map Attempt.sent) (Engine.attempts_of_succeeded sent rest succeeded)

theorem outcomes_of_succeeded (succeeded : (scripts.next engine.script).fault? = none) :
    (transaction ⟨engine, sent :: rest⟩ scripts).outcomes
      = scripts.next engine.script
        :: (transaction ⟨engine, rest⟩ (scripts.advance engine.script)).outcomes :=
  congrArg (List.map Attempt.outcome) (Engine.attempts_of_succeeded sent rest succeeded)

theorem drain_of_succeeded (succeeded : (scripts.next engine.script).fault? = none) :
    drain ⟨engine, sent :: rest⟩ scripts
      = drain ⟨engine, rest⟩ (scripts.advance engine.script) := by
  rw [drain, transaction, Engine.attempts_of_succeeded sent rest succeeded]
  rfl

theorem fault?_of_succeeded (succeeded : (scripts.next engine.script).fault? = none) :
    (transaction ⟨engine, sent :: rest⟩ scripts).fault?
      = (transaction ⟨engine, rest⟩ (scripts.advance engine.script)).fault? := by
  rw [Transaction.fault?, outcomes_of_succeeded engine sent rest succeeded, List.findSome?_cons,
    succeeded]
  rfl

/-- What statements yield, by what the first and what the others yield. -/
theorem verdict_of_first_succeeded (succeeded : (scripts.next engine.script).fault? = none) :
    (transaction ⟨engine, sent :: rest⟩ scripts).verdict
      = (transaction ⟨engine, rest⟩ (scripts.advance engine.script)).verdict.map
        fun results => QueryResult.ofOutcome (scripts.next engine.script) :: results := by
  have same := fault?_of_succeeded engine sent rest succeeded
  cases h : (transaction ⟨engine, rest⟩ (scripts.advance engine.script)).fault? with
  | none =>
    rw [Transaction.verdict_of_succeeded h, Transaction.verdict_of_succeeded (same.trans h),
      outcomes_of_succeeded engine sent rest succeeded]
    rfl
  | some fault =>
    rw [Transaction.verdict_of_failed h, Transaction.verdict_of_failed (same.trans h)]
    rfl

end

/-! How a transaction is closed. -/

theorem closing_of_succeeded (succeeded : (errand.transaction scripts).fault? = none) :
    (errand.transaction scripts).closing = .commit errand.engine.name := by
  rw [Transaction.closing, if_pos (committed_iff_fault?.mpr succeeded)]
  rfl

theorem closing_of_failed {fault : EngineFault}
    (failed : (errand.transaction scripts).fault? = some fault) :
    (errand.transaction scripts).closing = .rollback errand.engine.name := by
  rw [Transaction.closing, if_neg]
  · rfl
  · rw [committed_iff_fault?, failed]
    simp

/-- Every transaction is the one of an errand. -/
theorem exists_of_mem_transactions {t : Transaction} (h : t ∈ transactions errands scripts) :
    ∃ errand ∈ errands, ∃ scripts, t = errand.transaction scripts := by
  induction errands generalizing scripts with
  | nil => simp [transactions] at h
  | cons first rest ih =>
    rw [transactions] at h
    rcases List.mem_cons.mp h with rfl | h
    · exact ⟨first, by simp, scripts, rfl⟩
    · split at h
      · obtain ⟨errand, hmem, found⟩ := ih h
        exact ⟨errand, by simp [hmem], found⟩
      · simp at h

theorem length_transactions_le :
    (transactions errands scripts).length ≤ errands.length := by
  induction errands generalizing scripts with
  | nil => simp [transactions]
  | cons first rest ih =>
    rw [transactions, List.length_cons, List.length_cons]
    split
    · exact Nat.succ_le_succ ih
    · simp

/-- The transactions of errands take their outcomes from the scripts. -/
theorem serve_transactions : scripts.Serve (transactions errands scripts) := by
  induction errands generalizing scripts with
  | nil => trivial
  | cons first rest ih =>
    rw [transactions]
    refine ⟨Engine.outcomes_attempts, ?_⟩
    split
    · exact ih
    · trivial

theorem transactions_singleton : transactions [errand] scripts = [errand.transaction scripts] := by
  rw [transactions]
  split <;> rfl

/-- The second of two errands is run when the first one has been committed. -/
theorem transactions_pair (second : Errand) :
    (errand.transaction scripts).committed = false ∧
        transactions [errand, second] scripts = [errand.transaction scripts] ∨
      (errand.transaction scripts).committed = true ∧
        transactions [errand, second] scripts
          = [errand.transaction scripts, second.transaction (errand.drain scripts)] := by
  rw [transactions, transactions_singleton]
  cases (errand.transaction scripts).committed <;> simp

theorem drainAll_singleton : drainAll [errand] scripts = errand.drain scripts := by
  rw [drainAll]
  split <;> rfl

end Errand

end TableModel
