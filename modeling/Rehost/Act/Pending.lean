import Rehost.Act
/-!
# Computations that stop at each tool call

A library computation runs on the machine until it calls a host tool, and
waits there for the answer; meanwhile other computations sharing the machine
may run. `Pending σ α` is such a computation at one of those points: either
finished, with its outcome and the machine it left, or waiting on a call,
with the machine as it left it and what it does with the answer and the
machine it finds when it resumes.

`CallM σ` is the monad of computations that start on a machine and run to
their first stop: machine computations lift into it and stop nowhere, a tool
call stops once. `CallM.runWith r` answers every call at once with the runner
`r`, giving back an ordinary machine computation. It keeps `pure` and `bind`
(`runWith_bind`), so a computation written over `CallM` and the same text
over `HostM` agree when nothing runs between the calls. `CallAct` adds the
library's failures on top, as `Act` does over `HostM`, with the same laws.
-/

namespace Rehost

open Host

/-- The calls a computation made, each with its answer, oldest first. -/
abbrev CallLog := List (Invocation × CommandOutput)

/-- A computation stopped at its next tool call, or finished. -/
inductive Pending (σ α : Type) where
  /-- Finished with an outcome, leaving machine `m`. -/
  | done (r : Except Halt α) (m : Machine σ)
  /-- Waiting on the answer to `i`, called on machine `m`; `resume` takes the
      answer and the machine found when the answer comes. -/
  | call (i : Invocation) (m : Machine σ) (resume : CommandOutput → Machine σ → Pending σ α)

namespace Pending

variable {σ α β : Type}

/-- Goes on with `f` from where a computation finishes. -/
def bind : Pending σ α → (α → Machine σ → Pending σ β) → Pending σ β
  | .done (.ok a) m, f => f a m
  | .done (.error h) m, _ => .done (.error h) m
  | .call i m k, f => .call i m fun o m' => (k o m').bind f

/-- Runs to the end, answering every call at once with `r`. -/
def finish (r : Runner σ) : Pending σ α → Except Halt α × Machine σ
  | .done res m => (res, m)
  | .call i m k =>
    match (r.run i).run.run m with
    | (.ok o, m') => (k o m').finish r
    | (.error h, m') => (.error h, m')

theorem finish_bind (r : Runner σ) (p : Pending σ α) (f : α → Machine σ → Pending σ β) :
    (p.bind f).finish r =
      match p.finish r with
      | (.ok a, m) => (f a m).finish r
      | (.error h, m) => (.error h, m) := by
  induction p with
  | done res m => cases res <;> rfl
  | call i m k ih =>
    simp only [bind, finish]
    split <;> simp [ih]

end Pending

/-- A computation that runs from a machine to its first tool call. -/
def CallM (σ α : Type) : Type := Machine σ → Pending σ α

namespace CallM

variable {σ α β : Type}

instance : Monad (CallM σ) where
  pure a := fun m => .done (.ok a) m
  bind x f := fun m => (x m).bind f

@[simp] theorem pure_apply (a : α) (m : Machine σ) : (pure a : CallM σ α) m = .done (.ok a) m := rfl

@[simp] theorem bind_apply (x : CallM σ α) (f : α → CallM σ β) (m : Machine σ) :
    (x >>= f) m = (x m).bind f := rfl

/-- A machine computation: it runs through without stopping. -/
def host (x : HostM σ α) : CallM σ α := fun m =>
  match x.run.run m with
  | (r, m') => .done r m'

/-- Calls a tool and stops until the answer comes. -/
def call (i : Invocation) : CallM σ CommandOutput := fun m => .call i m fun o m' => .done (.ok o) m'

/-- Runs to the end, answering every call at once with `r`. -/
def runWith (r : Runner σ) (x : CallM σ α) : HostM σ α :=
  ExceptT.mk fun m => (x m).finish r

@[simp] theorem runWith_run (r : Runner σ) (x : CallM σ α) (m : Machine σ) :
    (x.runWith r).run.run m = (x m).finish r := rfl

theorem runWith_pure (r : Runner σ) (a : α) : (pure a : CallM σ α).runWith r = pure a := rfl

theorem runWith_bind (r : Runner σ) (x : CallM σ α) (f : α → CallM σ β) :
    (x >>= f).runWith r = x.runWith r >>= fun a => (f a).runWith r := by
  apply ExceptT.ext
  funext m
  refine (Pending.finish_bind r (x m) f).trans ?_
  have hx : (x.runWith r).run.run m = (x m).finish r := rfl
  show _ = StateT.run (ExceptT.run (x.runWith r >>= fun a => (f a).runWith r)) m
  rw [ExceptT.run_bind, StateT.run_bind, hx]
  rcases (x m).finish r with ⟨_ | _, s⟩ <;> rfl

theorem runWith_map (r : Runner σ) (g : α → β) (x : CallM σ α) :
    (g <$> x).runWith r = g <$> x.runWith r := by
  rw [show g <$> x = x >>= fun a => pure (g a) from rfl, runWith_bind, ← bind_pure_comp]
  rfl

theorem runWith_host (r : Runner σ) (x : HostM σ α) : (host x).runWith r = x := rfl

theorem runWith_call (r : Runner σ) (i : Invocation) : (call i).runWith r = r.run i := by
  apply ExceptT.ext
  funext m
  show (call i m).finish r = (r.run i).run.run m
  simp only [call, Pending.finish]
  split <;> simp_all

end CallM

/-- A library computation that stops at each tool call. -/
abbrev CallAct (σ : Type) := ExceptT Failure (CallM σ)

namespace CallAct

variable {σ α β : Type}

/-- A library computation that calls no tool. -/
def lift (x : Act σ α) : CallAct σ α := ExceptT.mk (CallM.host x.run)

/-- Runs a program with arguments, stopping until the answer comes. -/
def call (program : String) (args : List String) : CallAct σ CommandOutput :=
  ExceptT.lift (CallM.call { program := program, args := args })

/-- Runs a computation, keeping its failure as a value. -/
def attempt (x : CallAct σ α) : CallAct σ (Except Failure α) := ExceptT.lift x.run

/-- Runs to the end, answering every call at once with `r`. -/
def runWith (r : Runner σ) (x : CallAct σ α) : Act σ α := ExceptT.mk (x.run.runWith r)

theorem runWith_pure (r : Runner σ) (a : α) : (pure a : CallAct σ α).runWith r = pure a := rfl

theorem runWith_bind (r : Runner σ) (x : CallAct σ α) (f : α → CallAct σ β) :
    (x >>= f).runWith r = x.runWith r >>= fun a => (f a).runWith r := by
  apply ExceptT.ext
  simp only [runWith, ExceptT.run_bind, ExceptT.run_mk, CallM.runWith_bind]
  congr 1
  funext e
  cases e with
  | ok a => rfl
  | error f => rfl

theorem runWith_throw (r : Runner σ) (f : Failure) :
    (throw f : CallAct σ α).runWith r = throw f := rfl

theorem runWith_lift (r : Runner σ) (x : Act σ α) : (lift x).runWith r = x := rfl

theorem runWith_call (r : Runner σ) (program : String) (args : List String) :
    (call program args : CallAct σ CommandOutput).runWith r = Act.host (r.call program args) := by
  apply ExceptT.ext
  simp only [runWith, call, ExceptT.run_mk, ExceptT.run_lift, CallM.runWith_map, CallM.runWith_call,
    Act.host, Runner.call]

/-- A stepwise computation that cannot fail, answered at once. -/
theorem runWith_liftCallM (r : Runner σ) (y : CallM σ α) :
    runWith r (ExceptT.lift y) = Act.host (y.runWith r) := by
  apply ExceptT.ext
  exact CallM.runWith_map r Except.ok y

theorem runWith_attempt (r : Runner σ) (x : CallAct σ α) :
    (attempt x).runWith r = Act.attempt (x.runWith r) := by
  apply ExceptT.ext
  simp only [runWith, attempt, Act.attempt, Act.host, ExceptT.run_mk, ExceptT.run_lift, CallM.runWith_map]

/-- A loop over a list answers as the same loop with every call answered at once. -/
theorem runWith_forIn {γ : Type} (r : Runner σ) (xs : List γ) (b : β)
    (f : γ → β → CallAct σ (ForInStep β)) :
    (forIn xs b f).runWith r = forIn xs b fun a b => (f a b).runWith r := by
  induction xs generalizing b with
  | nil => rfl
  | cons a xs ih =>
    simp only [List.forIn_cons, runWith_bind]
    congr 1
    funext s
    cases s with
    | done b => rfl
    | yield b => exact ih b

end CallAct

end Rehost
