import Mathlib
import Rehost.Block.MountSteps
/-!
# Rules a stopping computation keeps to

A computation that stops at its tool calls runs in stretches, each from the
machine it resumes on to its next stop. Rules for it say what it may assume
of the machine whenever it resumes (`E`), what a stretch that ends at a call
may have done to the machine (`L`, from the machine the stretch began on to
the one it stops on), and which call it may make after the calls it made so
far (`P`). `Pending.Keeps` says that it keeps to them whatever the answers
are and whatever else happened to the machine while it waited, as long as
the assumption holds when it resumes, and that its end meets `Q`, which sees
the calls made, where the last stretch began, the outcome and the machine.

Keeping to the rules is read off a computation step by step: through a bind
it is keeping to them up to the bind with the rest as the end condition
(`keeps_bind`), a machine computation is part of a stretch (`keeps_host`),
and a call ends one (`keeps_call`). The same holds for `CallAct`, whose
failures are passed on, and for `GuardSteps`, which carries a guard.
-/

namespace Rehost

open Host

namespace Pending

variable {σ α β : Type}

section Rules

variable (E : Machine σ → Prop) (L : Machine σ → Machine σ → Prop) (P : CallLog → Invocation → Prop)

/-- After the calls of `log`, in a stretch begun on `m₀`, `p` keeps to the
    rules: every stretch that ends at a call does only what `L` allows, every
    call is one `P` allows after the calls before it, and the end meets `Q`. -/
def Keeps (Q : CallLog → Machine σ → Except Halt α → Machine σ → Prop) :
    CallLog → Machine σ → Pending σ α → Prop
  | log, m₀, .done r m => Q log m₀ r m
  | log, m₀, .call i m k => L m₀ m ∧ P log i ∧ ∀ o m', E m' → Keeps Q (log ++ [(i, o)]) m' (k o m')

end Rules

variable {E : Machine σ → Prop} {L : Machine σ → Machine σ → Prop} {P : CallLog → Invocation → Prop}
  {Q R : CallLog → Machine σ → Except Halt α → Machine σ → Prop} {log : CallLog} {m₀ : Machine σ}

@[simp] theorem keeps_done (r : Except Halt α) (m : Machine σ) :
    Keeps E L P Q log m₀ (.done r m) ↔ Q log m₀ r m := Iff.rfl

@[simp] theorem keeps_call (i : Invocation) (m : Machine σ) (k : CommandOutput → Machine σ → Pending σ α) :
    Keeps E L P Q log m₀ (.call i m k) ↔
      L m₀ m ∧ P log i ∧ ∀ o m', E m' → Keeps E L P Q (log ++ [(i, o)]) m' (k o m') := Iff.rfl

/-- A weaker end condition is kept too. -/
theorem Keeps.mono (h : ∀ log m₀ r m, Q log m₀ r m → R log m₀ r m) {p : Pending σ α} :
    Keeps E L P Q log m₀ p → Keeps E L P R log m₀ p := by
  induction p generalizing log m₀ with
  | done r m => exact h _ _ _ _
  | call i m k ih => exact fun hk => ⟨hk.1, hk.2.1, fun o m' hE => ih o m' (hk.2.2 o m' hE)⟩

/-- The calls only grow: every end sees the calls it started from, with
    more after them. -/
theorem Keeps.grows {p : Pending σ α} (h : Keeps E L P Q log m₀ p) :
    Keeps E L P (fun log' m₀ r m => log <+: log' ∧ Q log' m₀ r m) log m₀ p := by
  induction p generalizing log m₀ with
  | done r m => exact ⟨List.prefix_refl _, h⟩
  | call i m k ih =>
    refine ⟨h.1, h.2.1, fun o m' hE => (ih o m' (h.2.2 o m' hE)).mono fun _ _ _ _ hq => ?_⟩
    exact ⟨(List.prefix_append _ _).trans hq.1, hq.2⟩

/-- Through a bind, the rest is the end condition of the first part. -/
theorem keeps_bind {p : Pending σ α} {f : α → Machine σ → Pending σ β}
    {R : CallLog → Machine σ → Except Halt β → Machine σ → Prop} :
    Keeps E L P R log m₀ (p.bind f) ↔
      Keeps E L P (fun log m₀ r m => match r with
        | .ok a => Keeps E L P R log m₀ (f a m)
        | .error e => R log m₀ (.error e) m) log m₀ p := by
  induction p generalizing log m₀ with
  | done r m => cases r <;> rfl
  | call i m k ih =>
    simp only [Pending.bind, keeps_call]
    exact and_congr_right fun _ => and_congr_right fun _ =>
      forall_congr' fun o => forall_congr' fun m' => imp_congr_right fun _ => ih o m'

end Pending

open Pending

variable {σ α β : Type} {E : Machine σ → Prop} {L : Machine σ → Machine σ → Prop}
  {P : CallLog → Invocation → Prop} {log : CallLog} {m₀ : Machine σ}

namespace CallM

@[simp] theorem keeps_bind (x : CallM σ α) (f : α → CallM σ β) (m : Machine σ)
    {R : CallLog → Machine σ → Except Halt β → Machine σ → Prop} :
    Keeps E L P R log m₀ ((x >>= f) m) ↔
      Keeps E L P (fun log m₀ r m => match r with
        | .ok a => Keeps E L P R log m₀ (f a m)
        | .error e => R log m₀ (.error e) m) log m₀ (x m) :=
  Pending.keeps_bind

@[simp] theorem keeps_pure {Q : CallLog → Machine σ → Except Halt α → Machine σ → Prop} (a : α)
    (m : Machine σ) : Keeps E L P Q log m₀ ((pure a : CallM σ α) m) ↔ Q log m₀ (.ok a) m := Iff.rfl

/-- A machine computation is part of a stretch. -/
@[simp] theorem keeps_host {Q : CallLog → Machine σ → Except Halt α → Machine σ → Prop} (x : HostM σ α)
    (m : Machine σ) :
    Keeps E L P Q log m₀ (host x m) ↔ Q log m₀ (x.run.run m).1 (x.run.run m).2 := by
  unfold host
  rcases x.run.run m with ⟨r, m'⟩
  rfl

/-- A call ends a stretch; a new one begins on the machine it resumes on. -/
@[simp] theorem keeps_call {Q : CallLog → Machine σ → Except Halt CommandOutput → Machine σ → Prop}
    (i : Invocation) (m : Machine σ) :
    Keeps E L P Q log m₀ (call i m) ↔
      L m₀ m ∧ P log i ∧ ∀ o m', E m' → Q (log ++ [(i, o)]) m' (.ok o) m' := Iff.rfl

end CallM

namespace CallAct

@[simp] theorem keeps_bind (x : CallAct σ α) (f : α → CallAct σ β) (m : Machine σ)
    {R : CallLog → Machine σ → Except Halt (Except Failure β) → Machine σ → Prop} :
    Keeps E L P R log m₀ ((x >>= f).run m) ↔
      Keeps E L P (fun log m₀ (r : Except Halt (Except Failure α)) m => match r with
        | .ok (.ok a) => Keeps E L P R log m₀ ((f a).run m)
        | .ok (.error e) => R log m₀ (.ok (.error e)) m
        | .error h => R log m₀ (.error h) m) log m₀ (x.run m) := by
  rw [ExceptT.run_bind, CallM.keeps_bind]
  refine iff_of_eq (congrArg (fun Q => Keeps E L P Q log m₀ (x.run m)) ?_)
  funext log m₀ r m
  rcases r with _ | _ | _ <;> rfl

@[simp] theorem keeps_pure {Q : CallLog → Machine σ → Except Halt (Except Failure α) → Machine σ → Prop}
    (a : α) (m : Machine σ) :
    Keeps E L P Q log m₀ ((pure a : CallAct σ α).run m) ↔ Q log m₀ (.ok (.ok a)) m := Iff.rfl

@[simp] theorem keeps_throw {Q : CallLog → Machine σ → Except Halt (Except Failure α) → Machine σ → Prop}
    (e : Failure) (m : Machine σ) :
    Keeps E L P Q log m₀ ((throw e : CallAct σ α).run m) ↔ Q log m₀ (.ok (.error e)) m := Iff.rfl

/-- A library computation that calls no tool is part of a stretch. -/
@[simp] theorem keeps_lift {Q : CallLog → Machine σ → Except Halt (Except Failure α) → Machine σ → Prop}
    (x : Act σ α) (m : Machine σ) :
    Keeps E L P Q log m₀ ((lift x).run m) ↔ Q log m₀ (x.run.run.run m).1 (x.run.run.run m).2 :=
  CallM.keeps_host _ m

@[simp] theorem keeps_call
    {Q : CallLog → Machine σ → Except Halt (Except Failure CommandOutput) → Machine σ → Prop}
    (program : String) (args : List String) (m : Machine σ) :
    Keeps E L P Q log m₀ ((call program args).run m) ↔
      L m₀ m ∧ P log { program := program, args := args } ∧
        ∀ o m', E m' → Q (log ++ [({ program := program, args := args }, o)]) m' (.ok (.ok o)) m' :=
  Iff.rfl

/-- A computation that fails only by halting, run as a library one. -/
@[simp] theorem keeps_exceptLift
    {Q : CallLog → Machine σ → Except Halt (Except Failure α) → Machine σ → Prop} (y : CallM σ α)
    (m : Machine σ) :
    Keeps E L P Q log m₀ ((ExceptT.lift y : CallAct σ α).run m) ↔
      Keeps E L P (fun log m₀ (r : Except Halt α) m => match r with
        | .ok v => Q log m₀ (.ok (.ok v)) m
        | .error e => Q log m₀ (.error e) m) log m₀ (y m) := by
  show Keeps E L P Q log m₀ ((y m).bind fun v m => .done (.ok (.ok v)) m) ↔ _
  rw [Pending.keeps_bind]
  refine iff_of_eq (congrArg (fun Q => Keeps E L P Q log m₀ (y m)) ?_)
  funext log m₀ r m
  rcases r with _ | _ <;> rfl

/-- An attempt keeps to the rules as the computation does, its failure
    becoming its value. -/
@[simp] theorem keeps_attempt
    {Q : CallLog → Machine σ → Except Halt (Except Failure (Except Failure α)) → Machine σ → Prop}
    (x : CallAct σ α) (m : Machine σ) :
    Keeps E L P Q log m₀ ((attempt x).run m) ↔
      Keeps E L P (fun log m₀ (r : Except Halt (Except Failure α)) m => match r with
        | .ok v => Q log m₀ (.ok (.ok v)) m
        | .error e => Q log m₀ (.error e) m) log m₀ (x.run m) := by
  show Keeps E L P Q log m₀ ((x.run m).bind fun v m => .done (.ok (.ok v)) m) ↔ _
  rw [Pending.keeps_bind]
  refine iff_of_eq (congrArg (fun Q => Keeps E L P Q log m₀ (x.run m)) ?_)
  funext log m₀ r m
  rcases r with _ | _ <;> rfl

end CallAct

namespace Block.GuardSteps

variable {g : Block.MountGuard}

@[simp] theorem keeps_bind (x : GuardSteps σ α) (f : α → GuardSteps σ β) (m : Machine σ)
    {R : CallLog → Machine σ → Except Halt (Except Failure β × MountGuard) → Machine σ → Prop} :
    Keeps E L P R log m₀ (((x >>= f).run.run g) m) ↔
      Keeps E L P (fun log m₀ (r : Except Halt (Except Failure α × MountGuard)) m => match r with
        | .ok (.ok a, g') => Keeps E L P R log m₀ (((f a).run.run g') m)
        | .ok (.error e, g') => R log m₀ (.ok (.error e, g')) m
        | .error h => R log m₀ (.error h) m) log m₀ ((x.run.run g) m) := by
  rw [ExceptT.run_bind, StateT.run_bind, CallM.keeps_bind]
  refine iff_of_eq (congrArg (fun Q => Keeps E L P Q log m₀ ((x.run.run g) m)) ?_)
  funext log m₀ r m
  rcases r with _ | ⟨_ | _, g'⟩ <;> rfl

@[simp] theorem keeps_pure
    {Q : CallLog → Machine σ → Except Halt (Except Failure α × MountGuard) → Machine σ → Prop}
    (a : α) (m : Machine σ) :
    Keeps E L P Q log m₀ (((pure a : GuardSteps σ α).run.run g) m) ↔ Q log m₀ (.ok (.ok a, g)) m :=
  Iff.rfl

@[simp] theorem keeps_get
    {Q : CallLog → Machine σ → Except Halt (Except Failure MountGuard × MountGuard) → Machine σ → Prop}
    (m : Machine σ) :
    Keeps E L P Q log m₀ (((get : GuardSteps σ MountGuard).run.run g) m) ↔ Q log m₀ (.ok (.ok g, g)) m :=
  Iff.rfl

@[simp] theorem keeps_modify
    {Q : CallLog → Machine σ → Except Halt (Except Failure PUnit × MountGuard) → Machine σ → Prop}
    (f : MountGuard → MountGuard) (m : Machine σ) :
    Keeps E L P Q log m₀ (((modify f : GuardSteps σ PUnit).run.run g) m) ↔
      Q log m₀ (.ok (.ok ⟨⟩, f g)) m :=
  Iff.rfl

/-- A library computation keeps to the rules inside a guarded one, the guard
    unchanged. -/
@[simp] theorem keeps_act
    {Q : CallLog → Machine σ → Except Halt (Except Failure α × MountGuard) → Machine σ → Prop}
    (x : CallAct σ α) (m : Machine σ) :
    Keeps E L P Q log m₀ (((act x).run.run g) m) ↔
      Keeps E L P (fun log m₀ (r : Except Halt (Except Failure α)) m => match r with
        | .ok v => Q log m₀ (.ok (v, g)) m
        | .error e => Q log m₀ (.error e) m) log m₀ (x.run m) := by
  show Keeps E L P Q log m₀ ((x.run m).bind fun v m => .done (.ok (v, g)) m) ↔ _
  rw [Pending.keeps_bind]
  refine iff_of_eq (congrArg (fun Q => Keeps E L P Q log m₀ (x.run m)) ?_)
  funext log m₀ r m
  rcases r with _ | _ <;> rfl

end Block.GuardSteps

end Rehost
