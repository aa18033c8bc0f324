import Playback.Run.Call

/-!
# Routines

A `Routine` is **a program that puts requests to the world** and goes on with their answers: the
tree of everything it may ask. Nothing happens in a routine by itself; `World.run` puts its requests
to a world.

* `Routine` — the trees, a monad;
* `World` — a state machine that answers requests;
* `World.run` — the result of a routine in a world, and the world's state afterwards;
* `World.log` — the requests put on the way, with the states they found and the answers they got.
-/

namespace Playback

/-- **A program that puts requests to the world.** -/
inductive Routine (α : Type) where
  | done (result : α)
  | ask (request : Request) (next : request.Answer → Routine α)

namespace Routine

variable {α β : Type}

/-- Goes on with the result of a routine. -/
def andThen : Routine α → (α → Routine β) → Routine β
  | done a, f => f a
  | ask q k, f => ask q fun x => (k x).andThen f

/-- Routines are sequenced by going on with results. -/
instance : Monad Routine where
  pure := done
  bind := andThen

/-- Puts one request. -/
def request (q : Request) : Routine q.Answer := ask q done

/-- Tells the observer something. -/
def tell (m : StreamMessage) : Routine Unit := request (.tell m)

/-- Reports on a step. -/
def emit (e : ProgressEvent) : Routine Unit := tell (.progress e)

end Routine

/-- **A world**: answers requests, from state to state. -/
structure World (σ : Type) where
  /-- The answer to a request, and the state after it. -/
  reply : σ → (q : Request) → q.Answer × σ

/-- **A request that was put**: the state it found, and its answer. -/
structure Exchange (σ : Type) where
  /-- The state that the request found. -/
  before : σ
  /-- The request. -/
  request : Request
  /-- Its answer. -/
  answer : request.Answer

namespace World

variable {σ α : Type}

/-- **The result of a routine in a world**, and the state it leaves. -/
def run (w : World σ) : Routine α → σ → α × σ
  | .done a, s => (a, s)
  | .ask q k, s => w.run (k (w.reply s q).1) (w.reply s q).2

/-- **The requests that a routine puts**, in order. -/
def log (w : World σ) : Routine α → σ → List (Exchange σ)
  | .done _, _ => []
  | .ask q k, s => ⟨s, q, (w.reply s q).1⟩ :: w.log (k (w.reply s q).1) (w.reply s q).2

end World

end Playback
