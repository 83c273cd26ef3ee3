import KdbSchema.Compile

/-!
# Compilation with a report

The same requests as in `KdbSchema.Compile`, with a report of what happened on the way: each table
that was built, the order once it is settled, and the failure that ended the request.  A request
made of smaller ones reports their events in turn, so a failure is told once, where it arises.
-/

namespace KdbSchema

inductive TraceEvent where
  | tableResolved (record : String) (table : QualifiedName) (keys values : Nat)
  | schemaOrdered (tables : List QualifiedName)
  | compileFailed (failure : Failure)
deriving DecidableEq, Repr

/-- What a listener is told of an event: names and failures in their written form. -/
inductive Notice where
  | tableResolved (record table : String) (keys values : Nat)
  | schemaOrdered (tables : List String)
  | compileFailed (kind message : String)
deriving DecidableEq, Repr

def TraceEvent.notice : TraceEvent → Notice
  | tableResolved record table keys values => .tableResolved record table.text keys values
  | schemaOrdered tables => .schemaOrdered (tables.map QualifiedName.text)
  | compileFailed failure => .compileFailed failure.kind failure.message

/-- The outcome of a request and the events on the way to it. -/
structure Traced (α : Type) where
  outcome : Except Failure α
  events : List TraceEvent := []

namespace Traced

variable {α β : Type}

def notices (t : Traced α) : List Notice := t.events.map TraceEvent.notice

/-- An outcome without a report. -/
def silent (outcome : Except Failure α) : Traced α := { outcome := outcome }

/-- An outcome that reports itself if it is a failure. -/
def reportFailure (outcome : Except Failure α) : Traced α :=
  match outcome with
  | .ok _ => { outcome := outcome }
  | .error e => { outcome := outcome, events := [.compileFailed e] }

def report (event : TraceEvent) : Traced Unit := { outcome := .ok (), events := [event] }

/-- One request after another; a failure of the first ends both. -/
def andThen (t : Traced α) (f : α → Traced β) : Traced β :=
  match t.outcome with
  | .ok a => { outcome := (f a).outcome, events := t.events ++ (f a).events }
  | .error e => { outcome := .error e, events := t.events }

instance : Monad Traced where
  pure a := { outcome := .ok a }
  bind := andThen

end Traced

namespace Compiler

variable (k : Compiler)

def traceTableName (id : RecordId) : Traced QualifiedName := .reportFailure (k.tableName id)

def traceTable (id : RecordId) : Traced Table := do
  let t ← .reportFailure (k.table id)
  .report (.tableResolved t.record t.name t.keys.length t.values.length)
  return t

def traceOrder (ids : List RecordId) : Traced (List Table) := do
  let tables ← ids.eraseDups.mapM k.traceTable
  let ordered ← .reportFailure (orderTables tables)
  .report (.schemaOrdered (ordered.map Table.name))
  return ordered

def traceDeclareTable (id : RecordId) : Traced String := do
  let t ← k.traceTable id
  return t.declaration k.config.uniqueAttribute

def traceDeclareSchema (ids : List RecordId) : Traced String := do
  let ts ← k.traceOrder ids
  return script k.config.uniqueAttribute ts

end Compiler

end KdbSchema
