import ReturnForecast.Estimate
import ReturnForecast.Keyed
import ReturnForecast.Price
import ReturnForecast.Scoring.Metrics
import ReturnForecast.Scoring.ScopeKey

/-!
# The book of predictions

A prediction waits in the queue of its scope until its horizon has passed and is then scored against
the price of that time. A queue is ordered by due time, and by the order of scheduling where these
are equal. Scoring may fail on a quotient of prices that vanishes; the prediction is then gone from
the queue, and those before it are scored.
-/

namespace ReturnForecast

/-- A prediction that waits for its horizon. -/
structure Pending (α : Type) where
  dueMs : Int
  basePrice : α
  mu : α
  /-- What both sides of the pair are divided by. -/
  scale : α
deriving DecidableEq, Repr

/-- The queues and metrics of all scopes. -/
structure Book (α : Type) where
  window : Int
  r2MinSamples : Int
  pending : Keyed (List (Pending α)) := {}
  metrics : Keyed (Metrics α) := {}

/-- A row of the summary of a book. -/
structure SummaryRow (α : Type) where
  scopeKey : String
  parts : ScopeParts
  summary : MetricsSummary α
deriving DecidableEq, Repr

/-- Predictions in order of due time; those that are due together keep their order. -/
def byDue {α : Type} (queue : List (Pending α)) : List (Pending α) :=
  queue.mergeSort fun p q => p.dueMs ≤ q.dueMs

/--
A queue with one more prediction at its end. If the one before is due later, the queue is put in
order again.
-/
def enqueue {α : Type} (p : Pending α) (queue : List (Pending α)) : List (Pending α) :=
  if queue.getLast?.any fun last => p.dueMs < last.dueMs then byDue (queue ++ [p])
  else queue ++ [p]

namespace Book

variable {α : Type}

/-- A book without predictions. -/
def fresh (window r2MinSamples : Int) : Book α := { window, r2MinSamples }

/-- The queue of a scope. -/
def queue (b : Book α) (key : String) : List (Pending α) := (b.pending.get? key).getD []

/-- The number of predictions that wait in a scope. -/
def pendingCount (b : Book α) (key : String) : Nat := (b.queue key).length

/-- The metrics of a scope, without pairs if it is new. -/
def metricsOf (b : Book α) (key : String) : Metrics α :=
  (b.metrics.get? key).getD (.fresh b.window b.r2MinSamples)

/-- The book with metrics for a scope. -/
def touch (b : Book α) (key : String) : Book α :=
  { b with metrics := b.metrics.insert key (b.metricsOf key) }

variable [Scalar α]

/-- The scale as it is used: one unless it is finite and positive. -/
def usableScale (scale : α) : α := if Scalar.isFinite scale && decide (0 < scale) then scale else 1

/-- Is a prediction made at a price worth keeping? -/
def accepts (basePrice mu : α) : Bool := isValidPrice basePrice && Scalar.isFinite mu

/-- The book with a further prediction, and that prediction unless it is not accepted. -/
def schedule (b : Book α) (key : String) (nowMs horizonMs : Int) (basePrice mu scale : α) :
    Book α × Option (Pending α) :=
  if accepts basePrice mu then
    let dueMs := nowMs + max horizonMs 0
    let p : Pending α := { dueMs, basePrice, mu, scale := usableScale scale }
    ({ b with pending := b.pending.insert key (enqueue p (b.queue key)) }, some p)
  else (b, none)

/-- The pair of a prediction and what happened. A scale is never zero. -/
def score (p : Pending α) (price : α) : Except Fault (α × α) :=
  (log? (price / p.basePrice)).map fun r => (r / p.scale, p.mu / p.scale)

/-- What scoring the front of a queue comes to. -/
structure Resolution (α : Type) where
  queue : List (Pending α)
  metrics : Metrics α
  resolved : Nat
  fault : Option Fault

/-- Scores the predictions at the front of a queue that are due. -/
def resolveQueue (price : α) (nowMs : Int) (metrics : Metrics α) (resolved : Nat) :
    List (Pending α) → Resolution α
  | [] => { queue := [], metrics, resolved, fault := none }
  | p :: rest =>
    if p.dueMs ≤ nowMs then
      match score p price with
      | .error fault => { queue := rest, metrics, resolved, fault := some fault }
      | .ok (actual, predicted) =>
        resolveQueue price nowMs (metrics.observe actual predicted) (resolved + 1) rest
    else { queue := p :: rest, metrics, resolved, fault := none }

/-- The book after the due predictions of a scope have been scored, and their number. -/
def resolveDue (b : Book α) (key : String) (price : α) (nowMs : Int) :
    Book α × Except Fault Nat :=
  if (b.queue key).isEmpty || !isValidPrice price then (b, .ok 0)
  else
    let r := resolveQueue price nowMs (b.metricsOf key) 0 (b.queue key)
    ({ b with
        pending := b.pending.insert key r.queue
        metrics := b.metrics.insert key r.metrics },
      match r.fault with
      | some fault => .error fault
      | none => .ok r.resolved)

/-- The parts of a key; a key that has none stands for its symbol. -/
def partsOf (key : String) : ScopeParts :=
  (ScopeParts.ofKey? key).getD { symbol := key, market := "", predictor := "", horizon := "" }

/-- The rows of all scopes that have metrics, ordered by key. -/
def summary (b : Book α) : List (SummaryRow α) :=
  (b.metrics.entries.mergeSort fun x y => !decide (y.1 < x.1)).map fun (key, metrics) =>
    { scopeKey := key, parts := partsOf key, summary := metrics.summary }

/-- The numbers of waiting predictions of all scopes that ever had one, ordered by key. -/
def pendingCounts (b : Book α) : List (String × Nat) :=
  (b.pending.entries.mergeSort fun x y => !decide (y.1 < x.1)).map fun (key, queue) =>
    (key, queue.length)

end Book

end ReturnForecast
