import Workflow.Run.Execute
/-! # Runs side by side

Runs started in the background share one clock.  A run goes on without pause until it waits;
then the run that may go on earliest takes its turn, and of runs that may go on at the same
time the one that has been ready longest.  A wait of no time is no pause: the run goes on
at once.  Runs still waiting when the clock passes the horizon are left unfinished.

Time is counted in milliseconds from the moment the runs were started; `invokerAt` gives
the world as seen at such a moment.
-/

namespace Workflow

namespace Execute

variable {σ : Type} [Journal σ]

/-- A run among others: where it is, when it may go on, its place among runs ready at the
same time, and whether it has said that it started. -/
structure Pending where
  ctx : Context
  wake : Nat := 0
  order : Nat
  begun : Bool := false

/-- Whether a pending run goes before another. -/
def Pending.before (a b : Pending) : Bool := a.wake < b.wake || (a.wake == b.wake && a.order < b.order)

/-- The pending run that goes first, and the others. -/
def firstPending : List Pending → Option (Pending × List Pending)
  | [] => none
  | p :: ps =>
    match firstPending ps with
    | none => some (p, [])
    | some (q, qs) => if q.before p then some (q, p :: qs) else some (p, ps)

/-- Take turns among runs until all have ended or the rest wait past the horizon; the
outcomes of the runs that ended, in the order they ended. -/
def interleave (invokerAt : Nat → Invoker σ) (horizon : Nat) :
    Nat → List Pending → Nat → StateM σ (List Outcome)
  | 0, _, _ => pure []
  | fuel + 1, pending, counter =>
    match firstPending pending with
    | none => pure []
    | some (p, rest) =>
      if p.wake > horizon then pure []
      else do
        if !p.begun then announce p.ctx
        match ← turn (invokerAt p.wake) p.ctx with
        | .done o => do
          let more ← interleave invokerAt horizon fuel rest counter
          return o :: more
        | .next ctx wait =>
          match wait with
          | some (ms + 1) =>
            interleave invokerAt horizon fuel
              ({ ctx, wake := p.wake + ms + 1, order := counter, begun := true } :: rest)
              (counter + 1)
          | _ => interleave invokerAt horizon fuel ({ p with ctx, begun := true } :: rest) counter

/-- Run contexts side by side, in the order given when they are ready together. -/
def sideBySide (invokerAt : Nat → Invoker σ) (horizon fuel : Nat) (ctxs : List Context) :
    StateM σ (List Outcome) :=
  interleave invokerAt horizon fuel (ctxs.zipIdx.map fun (ctx, i) => { ctx, order := i })
    ctxs.length

end Execute

end Workflow
