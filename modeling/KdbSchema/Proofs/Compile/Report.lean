import KdbSchema.Proofs.Compile.OrderOutcome
import KdbSchema.Proofs.Traced

/-!
# What a request reports

A listener is told of every table that is built, of the order once it is settled, and of the failure
that ends a request.  Requests are made of smaller ones that report by themselves, so it has to be
seen that a failure is told once and that nothing is told after it.  Whether anybody listens has no
influence on the outcome.
-/

namespace KdbSchema

namespace Compiler

variable {k : Compiler} {id : RecordId} {ids us : List RecordId} {t : Table} {ts : List Table}
  {e : Failure}

/-! ## The protocol -/

def Announces (k : Compiler) (id : RecordId) (n : Notice) : Prop :=
  ∃ t, k.table id = .ok t ∧
    n = .tableResolved (k.catalog id).ident t.name.text t.keys.length t.values.length

/-- The notices `ns` of a request that needs the table of one record and ends with `r`. -/
def ReportsTable {α : Type} (k : Compiler) (id : RecordId) (r : Except Failure α)
    (ns : List Notice) : Prop :=
  match r with
  | .ok _ => ∃ n, k.Announces id n ∧ ns = [n]
  | .error e => ns = [.compileFailed e.kind e.message]

/-- The notices `ns` of a request that needs the tables of the listed records in order and ends with
`r`.  A failure is either that of the first record without a table, and then the records before it
have been announced, or one of the ordering, and then all of them have. -/
def ReportsOrder {α : Type} (k : Compiler) (ids : List RecordId) (r : Except Failure α)
    (ns : List Notice) : Prop :=
  match r with
  | .ok _ => ∃ out resolved, k.order ids = .ok out ∧
      List.Forall₂ k.Announces ids.eraseDups resolved ∧
      ns = resolved ++ [.schemaOrdered (out.map fun t => t.name.text)]
  | .error e => ∃ built resolved, List.Forall₂ k.Announces built resolved ∧
      ns = resolved ++ [.compileFailed e.kind e.message] ∧
      ((∃ id after, ids.eraseDups = built ++ id :: after ∧ k.table id = .error e) ∨
        ids.eraseDups = built ∧ ∃ ts, built.mapM k.table = .ok ts ∧ orderTables ts = .error e)

/-! ## One record -/

theorem traceTable_of_ok (h : k.table id = .ok t) :
    k.traceTable id =
      { outcome := .ok t
        events := [.tableResolved t.record t.name t.keys.length t.values.length] } := by
  unfold traceTable
  rw [h]
  rfl

theorem traceTable_of_error (h : k.table id = .error e) :
    k.traceTable id = { outcome := .error e, events := [.compileFailed e] } := by
  unfold traceTable
  rw [h]
  rfl

theorem outcome_traceTable (k : Compiler) (id : RecordId) :
    (k.traceTable id).outcome = k.table id := by
  cases h : k.table id with
  | ok t => rw [traceTable_of_ok h]
  | error e => rw [traceTable_of_error h]

theorem announces_of_table (h : k.table id = .ok t) :
    k.Announces id
      (.tableResolved t.record t.name.text t.keys.length t.values.length) := by
  obtain ⟨_, _, _, hrecord, _⟩ := Record.table_eq_ok_iff.mp h
  exact ⟨t, h, by rw [hrecord]⟩

theorem reportsTable_traceTable (k : Compiler) (id : RecordId) :
    k.ReportsTable id (k.table id) (k.traceTable id).notices := by
  cases h : k.table id with
  | ok t =>
      refine ⟨_, announces_of_table h, ?_⟩
      rw [Traced.notices, traceTable_of_ok h]
      rfl
  | error e =>
      rw [Traced.notices, traceTable_of_error h]
      rfl

theorem outcome_traceDeclareTable (k : Compiler) (id : RecordId) :
    (k.traceDeclareTable id).outcome = k.declareTable id := by
  unfold traceDeclareTable declareTable
  rw [Traced.outcome_bind, outcome_traceTable]
  rfl

theorem reportsTable_bind_pure {α β : Type} {r : Except Failure α} {ns : List Notice} (g : α → β) :
    k.ReportsTable id (r >>= fun a => pure (g a)) ns ↔ k.ReportsTable id r ns := by
  cases r <;> rfl

theorem reportsTable_traceDeclareTable (k : Compiler) (id : RecordId) :
    k.ReportsTable id (k.declareTable id) (k.traceDeclareTable id).notices := by
  unfold traceDeclareTable declareTable
  rw [reportsTable_bind_pure, Traced.notices_bind_pure]
  exact reportsTable_traceTable k id

/-! ## Several records -/

theorem outcome_mapM_traceTable (k : Compiler) (us : List RecordId) :
    (us.mapM k.traceTable).outcome = us.mapM k.table := by
  rw [Traced.outcome_mapM]
  simp only [outcome_traceTable]

theorem outcome_traceOrder (k : Compiler) (ids : List RecordId) :
    (k.traceOrder ids).outcome = k.order ids := by
  unfold traceOrder order
  rw [Traced.outcome_bind, outcome_mapM_traceTable]
  congr 1
  funext ts
  rw [Traced.outcome_bind, Traced.outcome_reportFailure]
  cases orderTables ts <;> rfl

/-- Records that have tables are announced one after the other. -/
theorem announces_of_builds (h : k.Builds us) :
    List.Forall₂ k.Announces us
      ((us.flatMap fun id => (k.traceTable id).events).map TraceEvent.notice) := by
  induction us with
  | nil => exact .nil
  | cons id us ih =>
      obtain ⟨⟨t, ht⟩, hus⟩ := List.forall_mem_cons.mp h
      rw [List.flatMap_cons, List.map_append, traceTable_of_ok ht]
      exact .cons (announces_of_table ht) (ih hus)

theorem events_mapM_traceTable (h : k.Builds us) (after : List RecordId) :
    ((us ++ after).mapM k.traceTable).events =
      (us.flatMap fun id => (k.traceTable id).events) ++ (after.mapM k.traceTable).events := by
  apply Traced.events_mapM_append
  simp only [outcome_traceTable]
  exact h

def orderingEvent : Except Failure (List Table) → TraceEvent
  | .ok out => .schemaOrdered (out.map Table.name)
  | .error e => .compileFailed e

theorem events_traceOrder_of_built (hts : ids.eraseDups.mapM k.table = .ok ts) :
    (k.traceOrder ids).events =
      (ids.eraseDups.flatMap fun id => (k.traceTable id).events) ++
        [orderingEvent (orderTables ts)] := by
  have hbuilds : k.Builds ids.eraseDups := builds_iff.mpr ⟨ts, mapM_eq_ok_iff.mp hts⟩
  have hevents : (ids.eraseDups.mapM k.traceTable).events =
      ids.eraseDups.flatMap fun id => (k.traceTable id).events := by
    simpa using events_mapM_traceTable hbuilds []
  unfold traceOrder
  rw [Traced.bind_of_ok ((outcome_mapM_traceTable k _).trans hts), hevents]
  cases orderTables ts with
  | ok out => rfl
  | error e => rfl

theorem events_traceOrder_of_unbuilt {before after : List RecordId}
    (hsplit : ids.eraseDups = before ++ id :: after) (hbefore : k.Builds before)
    (hid : k.table id = .error e) :
    (k.traceOrder ids).events =
      (before.flatMap fun id => (k.traceTable id).events) ++ [.compileFailed e] := by
  have hfirst : (k.traceTable id).outcome = .error e := by rw [outcome_traceTable, hid]
  have hunbuilt : (ids.eraseDups.mapM k.traceTable).outcome = .error e := by
    rw [outcome_mapM_traceTable]
    exact mapM_eq_error_iff.mpr ⟨before, id, after, hsplit, hbefore, hid⟩
  unfold traceOrder
  rw [Traced.bind_of_error hunbuilt, hsplit, events_mapM_traceTable hbefore,
    Traced.events_mapM_cons_of_error hfirst, traceTable_of_error hid]

theorem reportsOrder_traceOrder (k : Compiler) (ids : List RecordId) :
    k.ReportsOrder ids (k.order ids) (k.traceOrder ids).notices := by
  have hnotices : ∀ {us : List RecordId} {event : TraceEvent},
      (k.traceOrder ids).events = (us.flatMap fun id => (k.traceTable id).events) ++ [event] →
      (k.traceOrder ids).notices =
        (us.flatMap fun id => (k.traceTable id).events).map TraceEvent.notice ++
          [event.notice] := by
    intro us event h
    rw [Traced.notices, h, List.map_append, List.map_singleton]
  cases horder : k.order ids with
  | ok out =>
      obtain ⟨ts, hts, hout⟩ := order_eq_ok_iff.mp horder
      have hbuilds : k.Builds ids.eraseDups := builds_iff.mpr ⟨ts, mapM_eq_ok_iff.mp hts⟩
      refine ⟨out, _, horder, announces_of_builds hbuilds, ?_⟩
      rw [hnotices (events_traceOrder_of_built hts), hout]
      simp [orderingEvent, TraceEvent.notice]
  | error e =>
      rcases order_eq_error_iff.mp horder with hunbuilt | ⟨ts, hts, hfails⟩
      · obtain ⟨before, id, after, hsplit, hbefore, hid⟩ := mapM_eq_error_iff.mp hunbuilt
        refine ⟨before, _, announces_of_builds hbefore, ?_, Or.inl ⟨id, after, hsplit, hid⟩⟩
        exact hnotices (events_traceOrder_of_unbuilt hsplit hbefore hid)
      · have hbuilds : k.Builds ids.eraseDups := builds_iff.mpr ⟨ts, mapM_eq_ok_iff.mp hts⟩
        refine ⟨ids.eraseDups, _, announces_of_builds hbuilds, ?_, Or.inr ⟨rfl, ts, hts, hfails⟩⟩
        rw [hnotices (events_traceOrder_of_built hts), hfails]
        rfl

theorem outcome_traceDeclareSchema (k : Compiler) (ids : List RecordId) :
    (k.traceDeclareSchema ids).outcome = k.declareSchema ids := by
  unfold traceDeclareSchema declareSchema
  rw [Traced.outcome_bind, outcome_traceOrder]
  rfl

theorem reportsOrder_bind_pure {α β : Type} {r : Except Failure α} {ns : List Notice} (g : α → β) :
    k.ReportsOrder ids (r >>= fun a => pure (g a)) ns ↔ k.ReportsOrder ids r ns := by
  cases r <;> rfl

theorem reportsOrder_traceDeclareSchema (k : Compiler) (ids : List RecordId) :
    k.ReportsOrder ids (k.declareSchema ids) (k.traceDeclareSchema ids).notices := by
  unfold traceDeclareSchema declareSchema
  rw [reportsOrder_bind_pure, Traced.notices_bind_pure]
  exact reportsOrder_traceOrder k ids

/-- Every request has the same outcome with and without a listener, and what the listener is told
follows the protocol: one notice for each table that is built, in the order of the records, then one
for the order of the tables, and where the request fails one for the failure, after which nothing is
told.  A request for a name tells only of a failure. -/
theorem reports_follow_protocol (k : Compiler) :
    (∀ ids, (k.traceOrder ids).outcome = k.order ids ∧
      k.ReportsOrder ids (k.order ids) (k.traceOrder ids).notices ∧
      (k.traceDeclareSchema ids).outcome = k.declareSchema ids ∧
      k.ReportsOrder ids (k.declareSchema ids) (k.traceDeclareSchema ids).notices) ∧
    ∀ id, ((k.traceTable id).outcome = k.table id ∧
        k.ReportsTable id (k.table id) (k.traceTable id).notices) ∧
      ((k.traceDeclareTable id).outcome = k.declareTable id ∧
        k.ReportsTable id (k.declareTable id) (k.traceDeclareTable id).notices) ∧
      (k.traceTableName id).outcome = k.tableName id ∧
      (k.traceTableName id).notices =
        match k.tableName id with
        | .ok _ => []
        | .error e => [.compileFailed e.kind e.message] := by
  constructor
  · intro ids
    exact ⟨outcome_traceOrder k ids, reportsOrder_traceOrder k ids,
      outcome_traceDeclareSchema k ids, reportsOrder_traceDeclareSchema k ids⟩
  · intro id
    refine ⟨⟨outcome_traceTable k id, reportsTable_traceTable k id⟩,
      ⟨outcome_traceDeclareTable k id, reportsTable_traceDeclareTable k id⟩,
      Traced.outcome_reportFailure _, ?_⟩
    unfold traceTableName
    cases k.tableName id <;> rfl

/-- The second record has no table, so the order is not reached and the third one is not told of. -/
example :
    let k : Compiler := { catalog := fun id => { ident := if id = 1 then "Count" else "Venue" } }
    (k.traceDeclareSchema [0, 0, 1, 2]).notices =
      [.tableResolved "Venue" ".venue" 0 0,
        .compileFailed "InvalidTableName"
          ("record 'Count': invalid table name 'count': " ++
            "'count' is a reserved table word")] := by
  decide +kernel

end Compiler

end KdbSchema
