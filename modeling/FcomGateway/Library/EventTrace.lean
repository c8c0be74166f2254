import Mathlib.Data.List.Basic

/-! # Runs of a step function

A machine is a total step function; an action that is not enabled leaves the state alone.
`Along` asks a condition of every step of a run together with the state before the step,
`Always` asks a property of every state the run passes through.
-/

namespace EventTrace

universe u v

variable {S : Type u} {A : Type v} (step : S → A → S)

def run (s : S) (actions : List A) : S := actions.foldl step s

def Along (P : S → A → Prop) : S → List A → Prop
  | _, [] => True
  | s, a :: rest => P s a ∧ Along P (step s a) rest

def Always (I : S → Prop) : S → List A → Prop
  | s, [] => I s
  | s, a :: rest => I s ∧ Always I (step s a) rest

@[simp] theorem run_nil (s : S) : run step s [] = s := rfl

@[simp] theorem run_cons (s : S) (a : A) (rest : List A) :
    run step s (a :: rest) = run step (step s a) rest := rfl

theorem run_append (s : S) (first second : List A) :
    run step s (first ++ second) = run step (run step s first) second :=
  List.foldl_append

instance Along.decidable (P : S → A → Prop) [∀ s a, Decidable (P s a)] :
    (s : S) → (actions : List A) → Decidable (Along step P s actions)
  | _, [] => .isTrue trivial
  | s, a :: rest => @instDecidableAnd _ _ _ (Along.decidable P (step s a) rest)

instance Always.decidable (I : S → Prop) [∀ s, Decidable (I s)] :
    (s : S) → (actions : List A) → Decidable (Always step I s actions)
  | s, [] => inferInstanceAs (Decidable (I s))
  | s, a :: rest => @instDecidableAnd _ _ _ (Always.decidable I (step s a) rest)

variable {step}

theorem Always.head {I : S → Prop} {s : S} {actions : List A} (h : Always step I s actions) :
    I s := by
  cases actions with
  | nil => exact h
  | cons a rest => exact h.1

theorem Always.last {I : S → Prop} {s : S} {actions : List A} (h : Always step I s actions) :
    I (run step s actions) := by
  induction actions generalizing s with
  | nil => exact h
  | cons a rest ih => exact ih h.2

theorem Along.last {P : S → A → Prop} {s : S} {actions : List A} {a : A}
    (h : Along step P s (actions ++ [a])) : P (run step s actions) a := by
  induction actions generalizing s with
  | nil => exact h.1
  | cons b rest ih => exact ih h.2

theorem Along.concat {P : S → A → Prop} {s : S} {actions : List A} {a : A}
    (h : Along step P s actions) (ha : P (run step s actions) a) :
    Along step P s (actions ++ [a]) := by
  induction actions generalizing s with
  | nil => exact ⟨ha, trivial⟩
  | cons b rest ih => exact ⟨h.1, ih h.2 ha⟩

theorem Always.mono {I J : S → Prop} (hIJ : ∀ s, I s → J s) {s : S} {actions : List A}
    (h : Always step I s actions) : Always step J s actions := by
  induction actions generalizing s with
  | nil => exact hIJ s h
  | cons a rest ih => exact ⟨hIJ s h.1, ih h.2⟩

/-- A property that no step can restore holds along a run when it holds at its end. -/
theorem always_iff_run {I : S → Prop} (hBack : ∀ s a, I (step s a) → I s) {s : S}
    {actions : List A} : Always step I s actions ↔ I (run step s actions) := by
  constructor
  · exact Always.last
  · intro h
    induction actions generalizing s with
    | nil => exact h
    | cons a rest ih => exact ⟨hBack s a (ih h).head, ih h⟩

/-- The run rule: an invariant kept by every step that meets its condition holds in every
state of a run whose steps all meet theirs. -/
theorem always_of_along {I : S → Prop} {P : S → A → Prop}
    (hStep : ∀ s a, I s → P s a → I (step s a)) {s : S} {actions : List A} (hInit : I s)
    (h : Along step P s actions) : Always step I s actions := by
  induction actions generalizing s with
  | nil => exact hInit
  | cons a rest ih => exact ⟨hInit, ih (hStep s a hInit h.1) h.2⟩

theorem always_of_invariant {I L : S → Prop} {P : S → A → Prop}
    (hStep : ∀ s a, I s → P s a → I (step s a)) (hLaw : ∀ s, I s → L s) {s : S}
    {actions : List A} (hInit : I s) (h : Along step P s actions) : Always step L s actions :=
  (always_of_along hStep hInit h).mono hLaw

theorem always_of_kept {I : S → Prop} (hStep : ∀ s a, I s → I (step s a)) {s : S}
    (hInit : I s) (actions : List A) : Always step I s actions := by
  induction actions generalizing s with
  | nil => exact hInit
  | cons a rest ih => exact ⟨hInit, ih (hStep s a hInit)⟩

theorem run_invariant {I : S → Prop} (hStep : ∀ s a, I s → I (step s a)) {s : S}
    (hInit : I s) (actions : List A) : I (run step s actions) :=
  (always_of_kept hStep hInit actions).last

theorem along_of_always {I J : S → Prop} {P : S → A → Prop} (hJ : ∀ s a, J s → J (step s a))
    (hStep : ∀ s a, J s → I s → P s a) {s : S} {actions : List A} (hInit : J s)
    (h : Always step I s actions) : Along step P s actions := by
  induction actions generalizing s with
  | nil => trivial
  | cons a rest ih => exact ⟨hStep s a hInit h.1, ih (hJ s a hInit) h.2⟩

/-- The exact form of the run rule: where one step keeps the property if and only if it meets
its condition, the property holds along a run if and only if every step of it does. The
invariant `J` may be used on the way; `Q` is what the run itself promises of its steps. -/
theorem always_iff_along_of {I J : S → Prop} {P Q : S → A → Prop}
    (hJ : ∀ s a, J s → Q s a → J (step s a))
    (hStep : ∀ s a, J s → Q s a → I s → (I (step s a) ↔ P s a)) {s : S} {actions : List A}
    (hInit : J s) (hs : I s) (hRun : Along step Q s actions) :
    Always step I s actions ↔ Along step P s actions := by
  induction actions generalizing s with
  | nil => exact iff_of_true hs trivial
  | cons a rest ih =>
    have hNextJ : J (step s a) := hJ s a hInit hRun.1
    constructor
    · rintro ⟨_, hRest⟩
      have hNext : I (step s a) := hRest.head
      exact ⟨(hStep s a hInit hRun.1 hs).mp hNext, (ih hNextJ hNext hRun.2).mp hRest⟩
    · rintro ⟨hP, hRest⟩
      have hNext : I (step s a) := (hStep s a hInit hRun.1 hs).mpr hP
      exact ⟨hs, (ih hNextJ hNext hRun.2).mpr hRest⟩

theorem along_true {s : S} {actions : List A} : Along step (fun _ _ => True) s actions := by
  induction actions generalizing s with
  | nil => trivial
  | cons a rest ih => exact ⟨trivial, ih⟩

theorem always_iff_along {I J : S → Prop} {P : S → A → Prop}
    (hJ : ∀ s a, J s → J (step s a))
    (hStep : ∀ s a, J s → I s → (I (step s a) ↔ P s a)) {s : S} {actions : List A}
    (hInit : J s) (hs : I s) : Always step I s actions ↔ Along step P s actions :=
  always_iff_along_of (Q := fun _ _ => True) (fun s a h _ => hJ s a h)
    (fun s a h _ => hStep s a h) hInit hs along_true

/-- Two conditions that agree on every step from a state with the invariant agree along a
run. -/
theorem along_congr {J : S → Prop} {P P' : S → A → Prop} (hJ : ∀ s a, J s → J (step s a))
    (hStep : ∀ s a, J s → (P s a ↔ P' s a)) {s : S} {actions : List A} (hInit : J s) :
    Along step P s actions ↔ Along step P' s actions := by
  induction actions generalizing s with
  | nil => exact Iff.rfl
  | cons a rest ih => exact and_congr (hStep s a hInit) (ih (hJ s a hInit))

end EventTrace
