import Mathlib.Data.List.Induction

/-! # Logs in which entries open and close keys

An entry of the log may open a key and may close one. A key is outstanding when some entry
opened it and no later entry closed it. Requests and answers, leases and returns are of this
kind.
-/

namespace Ledger

universe u v

variable {E : Type u} {K : Type v} (opens closes : E → Option K)

def Outstanding (log : List E) (k : K) : Prop :=
  ∃ before e after, log = before ++ e :: after ∧ opens e = some k ∧
    ∀ x ∈ after, closes x ≠ some k

/-- Between two openings of one key there is a closing of it. -/
def Exclusive (log : List E) : Prop :=
  ∀ k before e middle e' after, log = before ++ e :: (middle ++ e' :: after) →
    opens e = some k → opens e' = some k → ∃ x ∈ middle, closes x = some k

/-- After every opening of a key there is a closing of it. -/
def Answered (log : List E) : Prop :=
  ∀ k before e after, log = before ++ e :: after → opens e = some k →
    ∃ x ∈ after, closes x = some k

/-- Every entry is in order for what was logged before it. -/
def Justified (P : List E → E → Prop) (log : List E) : Prop :=
  ∀ before e after, log = before ++ e :: after → P before e

theorem justified_nil (P : List E → E → Prop) : Justified P [] := by
  intro before e after hLog
  simp at hLog

theorem justified_concat_iff {P : List E → E → Prop} {log : List E} {e : E} :
    Justified P (log ++ [e]) ↔ Justified P log ∧ P log e := by
  constructor
  · intro h
    refine ⟨fun before x after hLog => h before x (after ++ [e]) ?_, h log e [] rfl⟩
    rw [hLog, List.append_assoc, List.cons_append]
  · rintro ⟨hLog, he⟩ before x after hSplit
    rcases List.eq_nil_or_concat after with rfl | ⟨front, y, rfl⟩
    · obtain ⟨rfl, hLast⟩ := List.append_inj' hSplit rfl
      cases hLast
      exact he
    · have hFront : log ++ [e] = (before ++ x :: front) ++ [y] := by simpa using hSplit
      exact hLog before x front (List.append_inj' hFront rfl).1

theorem Justified.of_append {P : List E → E → Prop} {log news : List E}
    (h : Justified P (log ++ news)) : Justified P log := by
  intro before e after hLog
  refine h before e (after ++ news) ?_
  rw [hLog, List.append_assoc, List.cons_append]

/-- A log made up of parts is in order if each part is one of those that may follow any log in
order, and is not as soon as one part may follow none. -/
theorem justified_flatMap_iff {C : Type*} {P : List E → E → Prop} {entries : C → List E}
    {safe : C → Prop}
    (hSafe : ∀ c, safe c → ∀ log, Justified P log → Justified P (log ++ entries c))
    (hUnsafe : ∀ c, ¬ safe c → ∀ log, ¬ Justified P (log ++ entries c)) (parts : List C) :
    Justified P (parts.flatMap entries) ↔ ∀ c ∈ parts, safe c := by
  have hFollowing : ∀ log, Justified P log →
      (Justified P (log ++ parts.flatMap entries) ↔ ∀ c ∈ parts, safe c) := by
    induction parts with
    | nil =>
      intro log hLog
      rw [List.flatMap_nil, List.append_nil]
      exact iff_of_true hLog (List.forall_mem_nil _)
    | cons c rest ih =>
      intro log hLog
      rw [List.flatMap_cons, ← List.append_assoc, List.forall_mem_cons]
      by_cases hPart : safe c
      · rw [ih _ (hSafe c hPart log hLog), and_iff_right hPart]
      · exact iff_of_false (fun hAll => hUnsafe c hPart log hAll.of_append) fun h => hPart h.1
  exact hFollowing [] (justified_nil P)

variable {opens closes}

@[simp] theorem not_outstanding_nil (k : K) : ¬ Outstanding opens closes [] k := by
  rintro ⟨before, e, after, hLog, _⟩
  simp at hLog

theorem outstanding_concat {log : List E} {e : E} {k : K} :
    Outstanding opens closes (log ++ [e]) k ↔
      opens e = some k ∨ (Outstanding opens closes log k ∧ closes e ≠ some k) := by
  constructor
  · rintro ⟨before, x, after, hLog, hOpen, hAfter⟩
    rcases List.eq_nil_or_concat after with rfl | ⟨front, y, rfl⟩
    · obtain ⟨_, hLast⟩ := List.append_inj' hLog rfl
      cases hLast
      exact Or.inl hOpen
    · have hSplit : log ++ [e] = (before ++ x :: front) ++ [y] := by simpa using hLog
      obtain ⟨rfl, hLast⟩ := List.append_inj' hSplit rfl
      cases hLast
      refine Or.inr ⟨⟨before, x, front, rfl, hOpen, ?_⟩, hAfter e (by simp)⟩
      intro z hz
      exact hAfter z (by simp [hz])
  · rintro (hOpen | ⟨⟨before, x, after, rfl, hOpen, hAfter⟩, hClose⟩)
    · exact ⟨log, e, [], rfl, hOpen, by simp⟩
    · refine ⟨before, x, after ++ [e], by simp, hOpen, ?_⟩
      intro y hy
      rcases List.mem_append.mp hy with hy | hy
      · exact hAfter y hy
      · rw [List.mem_singleton.mp hy]
        exact hClose

/-- Opening keys one by one keeps a log exclusive exactly as long as no key is outstanding when
it is opened. -/
theorem exclusive_concat_iff {log : List E} {e : E} :
    Exclusive opens closes (log ++ [e]) ↔ Exclusive opens closes log ∧
      ∀ k, opens e = some k → ¬ Outstanding opens closes log k := by
  constructor
  · refine fun h =>
      ⟨fun k before x middle y after hLog => h k before x middle y (after ++ [e]) ?_, ?_⟩
    · rw [hLog]
      simp
    · rintro k hOpen ⟨before, x, after, hLog, hx, hAfter⟩
      obtain ⟨y, hy, hClose⟩ := h k before x after e [] (by rw [hLog]; simp) hx hOpen
      exact hAfter y hy hClose
  · rintro ⟨h, hFree⟩ k before x middle y after hLog hx hy
    rcases List.eq_nil_or_concat after with rfl | ⟨front, z, rfl⟩
    · have hSplit : log ++ [e] = (before ++ x :: middle) ++ [y] := by simpa using hLog
      obtain ⟨rfl, hLast⟩ := List.append_inj' hSplit rfl
      cases hLast
      by_contra hNone
      exact hFree k hy ⟨before, x, middle, rfl, hx, fun z hz hClose => hNone ⟨z, hz, hClose⟩⟩
    · have hSplit : log ++ [e] = (before ++ x :: (middle ++ y :: front)) ++ [z] := by
        simpa using hLog
      obtain ⟨rfl, _⟩ := List.append_inj' hSplit rfl
      exact h k before x middle y front rfl hx hy

theorem exclusive_nil : Exclusive opens closes ([] : List E) := by
  intro k before e middle e' after hLog
  simp at hLog

theorem answered_iff {log : List E} :
    Answered opens closes log ↔ ∀ k, ¬ Outstanding opens closes log k := by
  constructor
  · rintro h k ⟨before, e, after, hLog, hOpen, hAfter⟩
    obtain ⟨x, hx, hClose⟩ := h k before e after hLog hOpen
    exact hAfter x hx hClose
  · intro h k before e after hLog hOpen
    by_contra hNone
    exact h k ⟨before, e, after, hLog, hOpen, fun x hx hClose => hNone ⟨x, hx, hClose⟩⟩

theorem Outstanding.of_append {log news : List E} {k : K}
    (h : Outstanding opens closes (log ++ news) k) :
    Outstanding opens closes log k ∨ ∃ e ∈ news, opens e = some k := by
  induction news using List.reverseRecOn with
  | nil => exact Or.inl (by simpa using h)
  | append_singleton news e ih =>
    rw [← List.append_assoc, outstanding_concat] at h
    rcases h with hOpen | ⟨hBefore, _⟩
    · exact Or.inr ⟨e, by simp, hOpen⟩
    · rcases ih hBefore with hLog | ⟨x, hx, hOpen⟩
      · exact Or.inl hLog
      · exact Or.inr ⟨x, List.mem_append_left _ hx, hOpen⟩

theorem Outstanding.append_cases {log news : List E} {k : K}
    (h : Outstanding opens closes (log ++ news) k) :
    Outstanding opens closes log k ∨ Outstanding opens closes news k := by
  induction news using List.reverseRecOn with
  | nil => exact .inl (by rwa [List.append_nil] at h)
  | append_singleton news e ih =>
    rw [← List.append_assoc, outstanding_concat] at h
    rcases h with hOpen | ⟨hBefore, hClose⟩
    · exact .inr (outstanding_concat.mpr (.inl hOpen))
    · exact (ih hBefore).imp_right fun hNews => outstanding_concat.mpr (.inr ⟨hNews, hClose⟩)

theorem answered_nil : Answered opens closes ([] : List E) :=
  answered_iff.mpr fun k => not_outstanding_nil k

theorem Answered.append {log news : List E} (hLog : Answered opens closes log)
    (hNews : Answered opens closes news) : Answered opens closes (log ++ news) :=
  answered_iff.mpr fun k hOut =>
    hOut.append_cases.elim (answered_iff.mp hLog k) (answered_iff.mp hNews k)

/-! ## Computing the outstanding keys -/

section Pending

variable [DecidableEq K] (opens closes)

def account (keys : List K) (e : E) : List K :=
  (opens e).toList ++ keys.filter fun k => closes e ≠ some k

def pending (log : List E) : List K := log.foldl (account opens closes) []

variable {opens closes}

theorem pending_concat (log : List E) (e : E) :
    pending opens closes (log ++ [e]) = account opens closes (pending opens closes log) e :=
  List.foldl_append

theorem mem_pending {log : List E} {k : K} :
    k ∈ pending opens closes log ↔ Outstanding opens closes log k := by
  induction log using List.reverseRecOn with
  | nil => simp [pending]
  | append_singleton log e ih =>
    rw [outstanding_concat, ← ih, pending_concat, account, List.mem_append, Option.mem_toList,
      List.mem_filter, decide_eq_true_eq]

theorem answered_iff_pending {log : List E} :
    Answered opens closes log ↔ pending opens closes log = [] := by
  rw [answered_iff, List.eq_nil_iff_forall_not_mem]
  exact forall_congr' fun k => not_congr mem_pending.symm

end Pending

end Ledger
