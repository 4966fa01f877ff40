/-
# TableModel.Proofs.Database.Chronicle — what the log says about transactions

The part of the library that uses databases writes a notice for every statement that it sends, and a
report when a transaction ends with a database error. A *chronicle* of transactions is a log that says
this and nothing else: the notices of the first transaction in the order of its statements, the report
of its failure if there is one to be made, and then the same for the others.

What other parts of the library write are remarks. The *account* of a trace is its log without them,
so that an account that is a chronicle has no report too many, whoever might have written it.
-/
import Mathlib.Data.List.Forall2
import TableModel.Proofs.Database.Transaction

namespace TableModel

/-! ## Notices and reports -/

/-- What the log says about a statement that is being sent. -/
def Sent.notice (sent : Sent) : LogRecord :=
  match sent.bindings with
  | some bindings => ⟨.debug, .database,
      "Executing: " ++ sent.sql ++ " with bindings " ++ Value.literal (.tuple bindings)⟩
  | none => ⟨.debug, .database, "Executing raw SQL: " ++ sent.sql⟩

namespace LogRecord

/-- Whether a record says that a statement is being sent. -/
def announces (record : LogRecord) : Bool :=
  record.channel == .database && "Executing".toList.isPrefixOf record.message.toList

/-- Whether a record says that something went wrong. -/
def isReport (record : LogRecord) : Bool :=
  record.level == .error

/-- Whether a record belongs to the account of what was done with databases: it is written by the part
of the library that uses them, or it says that something went wrong. -/
def isAccount (record : LogRecord) : Bool :=
  record.channel == .database || record.isReport

/-- A record that reports an engine's failure, in words that end with those of the engine. -/
structure Reports (record : LogRecord) (fault : EngineFault) : Prop where
  level_eq : record.level = .error
  channel_eq : record.channel = .database
  quotes : ∃ subject, record.message = subject ++ fault.message
  announces_eq : record.announces = false

/-- A report that ends with the words of the engine and begins otherwise than a notice. -/
theorem Reports.of_words {message : String} {fault : EngineFault} (opening : String)
    (otherwise : opening.toList.head?.any (· != 'E') = true) (opens : ∃ rest, message = opening ++ rest)
    (quotes : ∃ subject, message = subject ++ fault.message) :
    Reports ⟨.error, .database, message⟩ fault := by
  refine ⟨rfl, rfl, quotes, ?_⟩
  obtain ⟨rest, rfl⟩ := opens
  cases begins : opening.toList with
  | nil =>
    rw [begins] at otherwise
    cases otherwise
  | cons c more =>
    rw [begins, List.head?_cons, Option.any_some, bne_iff_ne] at otherwise
    have differ : ('E' == c) = false := beq_eq_false_iff_ne.mpr otherwise.symm
    rw [announces, String.toList_append, begins]
    simp [List.isPrefixOf, differ]

theorem Reports.isReport {record : LogRecord} {fault : EngineFault} (reports : record.Reports fault) :
    record.isReport = true := by
  rw [LogRecord.isReport, reports.level_eq]
  rfl

end LogRecord

namespace Sent

variable (sent : Sent)

theorem isReport_notice : sent.notice.isReport = false := by
  obtain ⟨sql, bindings⟩ := sent
  cases bindings <;> rfl

theorem isAccount_notice : sent.notice.isAccount = true := by
  obtain ⟨sql, bindings⟩ := sent
  cases bindings <;> rfl

theorem announces_notice : sent.notice.announces = true := by
  have opening : ∀ rest : String, "Executing".toList.isPrefixOf ("Executing" ++ rest).toList = true := by
    intro rest
    rw [String.toList_append, List.isPrefixOf_iff_prefix]
    exact List.prefix_append _ _
  obtain ⟨sql, bindings⟩ := sent
  cases bindings with
  | none => exact opening (" raw SQL: " ++ sql)
  | some bindings => exact opening (": " ++ sql ++ " with bindings " ++ Value.literal (.tuple bindings))

end Sent

/-! ## Accounts -/

namespace Trace

/-- The records of a trace that are no remarks. -/
def account (trace : Trace) : List LogRecord :=
  trace.records.filter LogRecord.isAccount

@[simp] theorem account_nil : account [] = [] := rfl

@[simp] theorem account_append (left right : Trace) :
    account (left ++ right) = left.account ++ right.account := by
  simp [account, records]

@[simp] theorem account_event (event : Event) (rest : Trace) :
    account (.event event :: rest) = rest.account := rfl

theorem account_log (record : LogRecord) (rest : Trace) :
    account (.log record :: rest)
      = if record.isAccount then record :: rest.account else rest.account :=
  List.filter_cons

/-- A notice is part of the account, and the statement that it is for follows it. -/
theorem account_noticed (sent : Sent) (event : Event) (rest : Trace) :
    account (.log sent.notice :: .event event :: rest) = sent.notice :: rest.account := by
  rw [account_log, if_pos sent.isAccount_notice, account_event]

/-- Records of an account are all in it. -/
theorem account_logs {records : List LogRecord} (told : ∀ record ∈ records, record.isAccount = true) :
    account (records.map Effect.log) = records := by
  induction records with
  | nil => rfl
  | cons record rest ih =>
    rw [List.forall_mem_cons] at told
    rw [List.map_cons, account_log, if_pos told.1, ih told.2]

end Trace

/-! ## Chronicles -/

namespace Transaction

/-- The failure of a transaction that is a database error. -/
def reportedFault? (transaction : Transaction) : Option EngineFault :=
  transaction.fault?.filter EngineFault.isReported

/-- Records that tell of a transaction: a notice for each statement that it sent, and, when it was
rolled back because of a database error, one report of that after them. -/
inductive ToldBy (transaction : Transaction) : List LogRecord → Prop
  | ended (unreported : transaction.reportedFault? = none) :
      ToldBy transaction (transaction.sent.map Sent.notice)
  | failed {fault : EngineFault} {report : LogRecord} (rolledBack : transaction.committed = false)
      (reported : transaction.reportedFault? = some fault) (reports : report.Reports fault) :
      ToldBy transaction (transaction.sent.map Sent.notice ++ [report])

end Transaction

/-- Records that tell of transactions, one after the other, and of nothing else. -/
inductive Chronicle : List Transaction → List LogRecord → Prop
  | nil : Chronicle [] []
  | cons {transaction : Transaction} {transactions : List Transaction} {records later : List LogRecord}
      (told : transaction.ToldBy records) (rest : Chronicle transactions later) :
      Chronicle (transaction :: transactions) (records ++ later)

namespace Chronicle

variable {transaction : Transaction} {transactions : List Transaction} {records : List LogRecord}

theorem single_iff : Chronicle [transaction] records ↔ transaction.ToldBy records := by
  constructor
  · rintro (_ | ⟨told, rest⟩)
    cases rest
    rwa [List.append_nil]
  · intro told
    have whole := Chronicle.cons told .nil
    rwa [List.append_nil] at whole

/-- The notices of a chronicle are those of the statements that were sent. -/
theorem filter_announces (chronicle : Chronicle transactions records) :
    records.filter LogRecord.announces
      = transactions.flatMap fun transaction => transaction.sent.map Sent.notice := by
  have notices : ∀ sents : List Sent,
      (sents.map Sent.notice).filter LogRecord.announces = sents.map Sent.notice := by
    intro sents
    rw [List.filter_eq_self, List.forall_mem_map]
    exact fun sent _ => sent.announces_notice
  induction chronicle with
  | nil => rfl
  | cons told _ ih =>
    rw [List.filter_append, ih, List.flatMap_cons]
    cases told with
    | ended => rw [notices]
    | failed _ _ reports =>
      have silent : ¬ LogRecord.announces _ = true := Bool.eq_false_iff.mp reports.announces_eq
      rw [List.filter_append, notices, List.filter_cons_of_neg silent, List.filter_nil, List.append_nil]

/-- The reports of a chronicle are those of the transactions that were rolled back because of database
errors, one for each. -/
theorem filter_isReport (chronicle : Chronicle transactions records) :
    List.Forall₂ (fun record fault => record.Reports fault) (records.filter LogRecord.isReport)
      (transactions.filterMap Transaction.reportedFault?) := by
  have notices : ∀ sents : List Sent, (sents.map Sent.notice).filter LogRecord.isReport = [] := by
    intro sents
    rw [List.filter_eq_nil_iff, List.forall_mem_map]
    intro sent _
    rw [sent.isReport_notice]
    simp
  induction chronicle with
  | nil => exact .nil
  | cons told _ ih =>
    rw [List.filter_append]
    cases told with
    | ended unreported =>
      rw [notices, List.nil_append, List.filterMap_cons_none unreported]
      exact ih
    | failed _ reported reports =>
      rw [List.filter_append, notices, List.filter_cons_of_pos reports.isReport, List.filter_nil,
        List.filterMap_cons_some reported]
      exact .cons reports ih

end Chronicle

end TableModel
