import Playback.Event

/-!
# The ledger of steps

Progress events folded by the numbers of their steps.

* `Ledger` — **the latest status of each step number**: a terminal event overwrites what was there,
  a `processing` event only opens an entry;
* `Ledger.counts` — how many step numbers have which status.

Entries are sorted by number, so that a ledger depends only on the statuses in it.
-/

namespace Playback

/-- **The statuses of steps** by number. -/
structure Ledger where
  /-- The numbers seen, in ascending order, with their statuses. -/
  entries : List (UInt32 × StepStatus) := []
  deriving DecidableEq, Repr, Inhabited

/-- **How many step numbers have which status.** -/
structure StatusCounts where
  completed : Nat := 0
  failed : Nat := 0
  skipped : Nat := 0
  /-- Step numbers without a terminal status. -/
  pending : Nat := 0
  deriving DecidableEq, Repr, Inhabited

namespace Ledger

/-- Changes the entry of a number, or makes one in its place. -/
def alterEntry (index : UInt32) (f : Option StepStatus → StepStatus) :
    List (UInt32 × StepStatus) → List (UInt32 × StepStatus)
  | [] => [(index, f none)]
  | (i, s) :: rest =>
    if index < i then (index, f none) :: (i, s) :: rest
    else if index = i then (i, f (some s)) :: rest
    else (i, s) :: alterEntry index f rest

/-- What becomes of the status of a step when a report on it comes in. -/
def after (reported : StepStatus) (before : Option StepStatus) : StepStatus :=
  if reported.isTerminal then reported else before.getD .processing

/-- Takes a status of a step number in. -/
def record (l : Ledger) (index : UInt32) (status : StepStatus) : Ledger :=
  ⟨alterEntry index (after status) l.entries⟩

/-- The status of a step number. -/
def status? (l : Ledger) (index : UInt32) : Option StepStatus :=
  (l.entries.find? fun e => e.1 == index).map (·.2)

/-- Takes an event in. -/
def recordEvent (l : Ledger) (e : ProgressEvent) : Ledger := l.record e.indexStep e.status

/-- **The ledger of some events.** -/
def ofEvents (events : List ProgressEvent) : Ledger := events.foldl recordEvent {}

/-- How many step numbers have a status. -/
def countOf (l : Ledger) (s : StepStatus) : Nat := l.entries.countP fun e => e.2 == s

/-- **How many step numbers have which status.** -/
def counts (l : Ledger) : StatusCounts where
  completed := l.countOf .completed
  failed := l.countOf .failed
  skipped := l.countOf .skipped
  pending := l.countOf .processing

/-- Takes a message in; only progress matters. -/
def hear (l : Ledger) : StreamMessage → Ledger
  | .progress e => l.recordEvent e
  | .session .. => l
  | .summary _ => l

end Ledger

end Playback
