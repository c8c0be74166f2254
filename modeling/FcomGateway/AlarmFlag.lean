import FcomGateway.Panel

/-! # The cached alarm flag

`gateway_data.alarm_status` is recomputed by every report. The other writes to the table leave
it alone, and so does the restore at boot; a write that makes the last alarm quiet therefore
leaves the flag standing until the next report.
-/

namespace FcomGateway

open EventTrace

/-- The flag is set if and only if some entry from 1 to 50 is `ALARM_ST`. -/
def AlarmFlagLaw (g : Gateway) : Prop :=
  g.gatewayData.alarmStatus = true ↔
    ∃ i, (1 ≤ i ∧ i ≤ MAX_DECTECTOR) ∧ g.sensorData.dtorSensorState i = .alarmSt

def PanelOp.isReport : PanelOp → Bool
  | .vacate _ => false
  | _ => true

namespace Panel

def FlagLaw (p : Panel) : Prop := p.alarmStatus = true ↔ p.alarms.Nonempty

/-- The alarms before the operation are such that it leaves the flag in step with them. -/
def KeepsFlag (p : Panel) : PanelOp → Prop
  | .vacate d => p.alarms ≠ {d}
  | _ => True

/-- An operation that leaves the flag behind is followed by a report. -/
def FlagSafe : Panel → List PanelOp → Prop
  | _, [] => True
  | p, op :: rest =>
    (p.KeepsFlag op ∨ rest.any PanelOp.isReport = true) ∧ FlagSafe (p.apply op) rest

instance (p : Panel) : Decidable p.FlagLaw := inferInstanceAs (Decidable (_ ↔ _))

instance (p : Panel) : (op : PanelOp) → Decidable (p.KeepsFlag op)
  | .vacate d => inferInstanceAs (Decidable (p.alarms ≠ {d}))
  | .fire _ | .clear _ | .test _ => .isTrue trivial

instance FlagSafe.decidable : (p : Panel) → (ops : List PanelOp) → Decidable (p.FlagSafe ops)
  | _, [] => .isTrue trivial
  | p, op :: rest => @instDecidableAnd _ _ _ (FlagSafe.decidable (p.apply op) rest)

theorem flagLaw_apply_iff {p : Panel} {op : PanelOp} (h : p.FlagLaw ∨ op.isReport = true) :
    (p.apply op).FlagLaw ↔ p.KeepsFlag op := by
  cases op with
  | fire d => simp [FlagLaw, apply, KeepsFlag]
  | clear d | test d => simp [FlagLaw, apply, KeepsFlag]
  | vacate d =>
    have hLaw : p.FlagLaw := h.resolve_right Bool.false_ne_true
    have hFlag : (p.alarmStatus = true ↔ (p.alarms.erase d).Nonempty) ↔ p.alarms ≠ {d} := by
      rw [show p.alarmStatus = true ↔ p.alarms.Nonempty from hLaw, nonempty_erase_iff]
    exact hFlag

/-- The flag of the last alarm that was made quiet stands until the next report. -/
theorem stale_run {ops : List PanelOp} (hOps : ops.any PanelOp.isReport = false) {p : Panel}
    (hFlag : p.alarmStatus = true) (hAlarms : p.alarms = ∅) :
    ¬ (run apply p ops).FlagLaw := by
  induction ops generalizing p with
  | nil =>
    intro hLaw
    have hSome := hLaw.mp hFlag
    rw [run_nil, hAlarms] at hSome
    exact Finset.not_nonempty_empty hSome
  | cons op rest ih =>
    rw [List.any_cons, Bool.or_eq_false_iff] at hOps
    cases op with
    | vacate d =>
      refine ih hOps.2 hFlag ?_
      change p.alarms.erase d = ∅
      rw [hAlarms, Finset.erase_empty]
    | fire d | clear d | test d => cases hOps.1

theorem flagLaw_run_iff {p : Panel} {ops : List PanelOp}
    (h : p.FlagLaw ∨ ops.any PanelOp.isReport = true) :
    (run apply p ops).FlagLaw ↔ p.FlagSafe ops := by
  induction ops generalizing p with
  | nil => exact iff_of_true (h.resolve_right Bool.false_ne_true) trivial
  | cons op rest ih =>
    by_cases hRest : rest.any PanelOp.isReport = true
    · exact (ih (Or.inr hRest)).trans (and_iff_right (Or.inr hRest)).symm
    · rw [List.any_cons, Bool.or_eq_true] at h
      have hApply := flagLaw_apply_iff (h.imp id fun hAny => hAny.resolve_right hRest)
      by_cases hKeep : p.KeepsFlag op
      · exact (ih (Or.inl (hApply.mpr hKeep))).trans (and_iff_right (Or.inl hKeep)).symm
      · refine iff_of_false ?_ fun hSafe => hSafe.1.elim hKeep hRest
        cases op with
        | fire d | clear d | test d => exact absurd trivial hKeep
        | vacate d =>
          have hAlarms : p.alarms = {d} := Decidable.not_not.mp hKeep
          have hLaw : p.FlagLaw := h.resolve_right fun hAny =>
            hRest (hAny.resolve_left Bool.false_ne_true)
          refine stale_run (Bool.eq_false_iff.mpr hRest) (hLaw.mpr ?_) ?_
          · rw [hAlarms]
            exact Finset.singleton_nonempty d
          · change p.alarms.erase d = ∅
            rw [hAlarms, Finset.erase_singleton]

end Panel

theorem alarmFlagLaw_iff {g : Gateway} : AlarmFlagLaw g ↔ g.panel.FlagLaw :=
  iff_congr Iff.rfl (exists_congr fun _ => mem_alarmed.symm)

instance (g : Gateway) : Decidable (AlarmFlagLaw g) := decidable_of_iff _ alarmFlagLaw_iff.symm

def AlarmFlagSafe (g : Gateway) (event : Event) : Prop := g.panel.FlagSafe (panelOps g event)

instance (g : Gateway) (event : Event) : Decidable (AlarmFlagSafe g event) :=
  Panel.FlagSafe.decidable g.panel (panelOps g event)

theorem alarmFlagLaw_step {g : Gateway} (hInv : ChannelInv g) (h : AlarmFlagLaw g)
    (event : Event) : AlarmFlagLaw (step g event) ↔ AlarmFlagSafe g event := by
  rw [alarmFlagLaw_iff, panel_step hInv.table]
  exact Panel.flagLaw_run_iff (Or.inl (alarmFlagLaw_iff.mp h))

theorem alarmFlagLaw_boot (saved : Option SensorData) (userReset : Bool) (clock : Nat → Int) :
    AlarmFlagLaw (boot saved userReset clock) ↔
      ∀ i, 1 ≤ i → i ≤ MAX_DECTECTOR → (saved.getD .zero).dtorSensorState i ≠ .alarmSt := by
  have hFlag : AlarmFlagLaw (boot saved userReset clock) ↔
      ¬ ∃ i, (1 ≤ i ∧ i ≤ MAX_DECTECTOR) ∧ (saved.getD .zero).dtorSensorState i = .alarmSt :=
    ⟨fun h hAlarm => Bool.false_ne_true (h.mpr hAlarm), fun h => iff_of_false
      Bool.false_ne_true h⟩
  rw [hFlag]
  exact ⟨fun h i hLow hHigh hAlarm => h ⟨i, ⟨hLow, hHigh⟩, hAlarm⟩,
    fun h ⟨i, hi, hAlarm⟩ => h i hi.1 hi.2 hAlarm⟩

/-- The flag is right after every event exactly when the restored table has no alarm and every
event is safe where it happens. -/
theorem alarmFlagLaw_always_iff {saved : Option SensorData}
    (hSaved : ∀ t, saved = some t → PreviouslySaved t) (userReset : Bool) (clock : Nat → Int)
    (events : List Event) : Always step AlarmFlagLaw (boot saved userReset clock) events ↔
      (∀ i, 1 ≤ i → i ≤ MAX_DECTECTOR → (saved.getD .zero).dtorSensorState i ≠ .alarmSt) ∧
        Along step AlarmFlagSafe (boot saved userReset clock) events := by
  rw [← alarmFlagLaw_boot saved userReset clock]
  have hRun : AlarmFlagLaw (boot saved userReset clock) →
      (Always step AlarmFlagLaw (boot saved userReset clock) events ↔
        Along step AlarmFlagSafe (boot saved userReset clock) events) :=
    always_iff_along (J := ChannelInv) (fun _ event hInv => hInv.step event)
      (fun _ event hInv h => alarmFlagLaw_step hInv h event)
      (ChannelInv.boot hSaved userReset clock)
  constructor
  · exact fun h => ⟨h.head, (hRun h.head).mp h⟩
  · exact fun h => (hRun h.1).mpr h.2

theorem alarmFlagLaw_one_alarm : Always step AlarmFlagLaw (boot none false fun _ => 0)
    (startListening ++ [uartData (Report.F.bytes 1), uartData (Report.T.bytes 1)]) :=
  (alarmFlagLaw_always_iff (by simp) false (fun _ => 0) _).mpr
    ⟨fun _ _ _ h => SensorState.noConfusion h, by decide⟩

/-- Detector 1 is in alarm, a registration request makes its entry quiet, and the flag stands. -/
theorem alarmFlag_left_by_hand_out : ¬ ∀ (saved : Option SensorData),
    (∀ t, saved = some t → PreviouslySaved t) → ∀ events : List Event,
      Always step AlarmFlagLaw (boot saved false fun _ => 0) events := by
  intro h
  have hRun := h none (by simp)
    (startListening ++ [uartData (Report.F.bytes 1), uartData requestBytes])
  revert hRun
  decide

end FcomGateway
