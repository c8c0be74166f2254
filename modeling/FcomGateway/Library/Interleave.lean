import FcomGateway.Library.EventTrace
import Mathlib.Logic.Function.Basic

/-! # Tasks that run scripts over a shared state

A job of a task is a script of atomic operations. The scheduler starts jobs of idle tasks and
advances any task by one operation; a task that is never interrupted runs its script as one fold.
-/

namespace Interleave

open EventTrace

universe u v w x

structure Program (T : Type u) (J : Type v) (Op : Type w) (S : Type x) where
  task : J → T
  script : J → List Op
  exec : T → Op → S → S

structure Config (T : Type u) (Op : Type w) (S : Type x) where
  shared : S
  todo : T → List Op

inductive Action (T : Type u) (J : Type v)
  | begin (job : J)
  | advance (task : T)

variable {T : Type u} {J : Type v} {Op : Type w} {S : Type x}

def Config.idle (s : S) : Config T Op S := { shared := s, todo := fun _ => [] }

namespace Program

variable [DecidableEq T] (p : Program T J Op S)

def step (c : Config T Op S) : Action T J → Config T Op S
  | .begin job =>
    match c.todo (p.task job) with
    | [] => { c with todo := Function.update c.todo (p.task job) (p.script job) }
    | _ :: _ => c
  | .advance t =>
    match c.todo t with
    | [] => c
    | op :: rest => { shared := p.exec t op c.shared, todo := Function.update c.todo t rest }

def runScript (t : T) (s : S) (script : List Op) : S := script.foldl (fun s op => p.exec t op s) s

def schedule (job : J) : List (Action T J) :=
  .begin job :: List.replicate (p.script job).length (.advance (p.task job))

variable {p}

/-- A step does nothing, starts a job of an idle task, or runs the next operation of a task. -/
theorem step_cases (c : Config T Op S) (a : Action T J) :
    p.step c a = c ∨
    (∃ job, a = .begin job ∧ c.todo (p.task job) = [] ∧
      p.step c a = { c with todo := Function.update c.todo (p.task job) (p.script job) }) ∨
    (∃ t op rest, a = .advance t ∧ c.todo t = op :: rest ∧
      p.step c a = { shared := p.exec t op c.shared, todo := Function.update c.todo t rest }) := by
  cases a with
  | begin job =>
    cases hTodo : c.todo (p.task job) with
    | nil => exact Or.inr (Or.inl ⟨job, rfl, hTodo, by simp only [step, hTodo]⟩)
    | cons op rest => exact Or.inl (by simp only [step, hTodo])
  | advance t =>
    cases hTodo : c.todo t with
    | nil => exact Or.inl (by simp only [step, hTodo])
    | cons op rest => exact Or.inr (Or.inr ⟨t, op, rest, rfl, hTodo, by simp only [step, hTodo]⟩)

theorem run_advance {c : Config T Op S} {t : T} {script : List Op} (hTodo : c.todo t = script) :
    run p.step c (List.replicate script.length (.advance t)) =
      { shared := p.runScript t c.shared script, todo := Function.update c.todo t [] } := by
  induction script generalizing c with
  | nil =>
    have hSame : Function.update c.todo t [] = c.todo := by
      rw [← hTodo, Function.update_eq_self]
    rw [hSame]
    rfl
  | cons op rest ih =>
    have hStep : p.step c (.advance t) =
        { shared := p.exec t op c.shared, todo := Function.update c.todo t rest } := by
      simp only [step, hTodo]
    rw [List.length_cons, List.replicate_succ, run_cons, hStep, ih (Function.update_self ..),
      Function.update_idem]
    rfl

/-- Between idle states an uninterrupted job is the fold of its script. -/
theorem run_schedule (s : S) (job : J) :
    run p.step (Config.idle s) (p.schedule job) =
      Config.idle (p.runScript (p.task job) s (p.script job)) := by
  have hBegin : p.step (Config.idle s) (.begin job) =
      { shared := s, todo := Function.update (fun _ => []) (p.task job) (p.script job) } := rfl
  have hTodo : Function.update (fun _ => []) (p.task job) (p.script job) (p.task job) =
      p.script job := Function.update_self ..
  rw [schedule, run_cons, hBegin, run_advance hTodo, Function.update_idem]
  exact congrArg (Config.mk _) (Function.update_eq_self (p.task job) fun _ => [])

end Program

end Interleave
