import StoreSaas.Services.OrdersService

/-! # `OutboxProcessor`

One pass selects unprocessed rows without locking them, and then handles one after the
other; every statement commits by itself.
-/

namespace StoreSaas.OutboxProcessor

def batchSize : Nat := 20

/-- An event of another type is only logged. -/
def enqueue (event : OutboxEvent) : Tx Unit :=
  if event.eventType = "send-email" then Tx.enqueueMail event.payload else return ()

/-- The `try` block of the loop. -/
def deliver (env : Environment) (event : OutboxEvent) : Tx Unit := do
  enqueue event
  Tx.outbox (.markProcessed event.id env.now)

/-- One round of the loop; an error leaves the event for the next pass. -/
def process (env : Environment) (event : OutboxEvent) : Tx Unit :=
  (deliver env event).tryCatch fun _ => return ()

def processAll (env : Environment) : List OutboxEvent → Tx Unit
  | [] => return ()
  | event :: rest => do
    process env event
    processAll env rest

def pollOnce (env : Environment) : Tx Nat := do
  let pending : List OutboxEvent ← Tx.outbox (.findPending batchSize env.rank)
  processAll env pending
  return pending.length

end StoreSaas.OutboxProcessor
