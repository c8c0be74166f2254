import FcomGateway.Panel

/-! # The siren and the table

The relay and the 24 V output should be on exactly while some detector is in alarm. Only F and T
drive the outputs, each by the entry of the one detector that reported, so the law survives a run
whose operations never quieten the last alarm without driving them, and never drive them from a
quiet entry beside another alarm.
-/

namespace FcomGateway

open EventTrace

/-- The outputs are on if and only if some entry from 1 to 50 is `ALARM_ST`. -/
def SirenLaw (g : Gateway) : Prop :=
  (g.relay = true ↔ ∃ i, (1 ≤ i ∧ i ≤ MAX_DECTECTOR) ∧ g.sensorData.dtorSensorState i = .alarmSt) ∧
  (g.out24V = true ↔ ∃ i, (1 ≤ i ∧ i ≤ MAX_DECTECTOR) ∧ g.sensorData.dtorSensorState i = .alarmSt)

namespace Panel

def SirenLaw (p : Panel) : Prop :=
  (p.relay = true ↔ p.alarms.Nonempty) ∧ (p.out24V = true ↔ p.alarms.Nonempty)

/-- The alarms before the operation are such that it leaves the outputs in step with them. -/
def KeepsSiren (p : Panel) : PanelOp → Prop
  | .fire _ => True
  | .test d => p.alarms ⊆ {d}
  | .clear d | .vacate d => p.alarms ≠ {d}

instance (p : Panel) : Decidable p.SirenLaw := inferInstanceAs (Decidable (_ ∧ _))

instance (p : Panel) : (op : PanelOp) → Decidable (p.KeepsSiren op)
  | .fire _ => .isTrue trivial
  | .test d => inferInstanceAs (Decidable (p.alarms ⊆ {d}))
  | .clear d => inferInstanceAs (Decidable (p.alarms ≠ {d}))
  | .vacate d => inferInstanceAs (Decidable (p.alarms ≠ {d}))

theorem sirenLaw_apply_iff {p : Panel} (h : p.SirenLaw) (op : PanelOp) :
    (p.apply op).SirenLaw ↔ p.KeepsSiren op := by
  cases op with
  | fire d => simp [SirenLaw, apply, KeepsSiren]
  | test d =>
    have hQuiet : (p.apply (.test d)).SirenLaw ↔ ¬ (p.alarms.erase d).Nonempty := by
      simp [SirenLaw, apply]
    rw [hQuiet, Finset.not_nonempty_iff_eq_empty, Finset.erase_eq_empty_iff,
      ← Finset.subset_singleton_iff]
    rfl
  | clear d | vacate d =>
    have hOutputs : (p.relay = true ↔ (p.alarms.erase d).Nonempty) ∧
        (p.out24V = true ↔ (p.alarms.erase d).Nonempty) ↔ p.alarms ≠ {d} := by
      rw [h.1, h.2, and_self, nonempty_erase_iff]
    exact hOutputs

end Panel

theorem sirenLaw_iff {g : Gateway} : SirenLaw g ↔ g.panel.SirenLaw := by
  have hAlarm : (∃ i, (1 ≤ i ∧ i ≤ MAX_DECTECTOR) ∧ g.sensorData.dtorSensorState i = .alarmSt) ↔
      g.panel.alarms.Nonempty := exists_congr fun i => mem_alarmed.symm
  rw [SirenLaw, hAlarm]
  rfl

instance (g : Gateway) : Decidable (SirenLaw g) := decidable_of_iff _ sirenLaw_iff.symm

def SirenSafe (g : Gateway) (event : Event) : Prop :=
  Along Panel.apply Panel.KeepsSiren g.panel (panelOps g event)

instance (g : Gateway) (event : Event) : Decidable (SirenSafe g event) :=
  Along.decidable Panel.apply Panel.KeepsSiren g.panel (panelOps g event)

/-- The condition leaves out nothing but events that break the law at one of their writes. -/
theorem sirenSafe_iff {g : Gateway} (h : SirenLaw g) (event : Event) :
    SirenSafe g event ↔ Always Panel.apply Panel.SirenLaw g.panel (panelOps g event) :=
  (always_iff_along (I := Panel.SirenLaw) (J := fun _ => True) (fun _ _ _ => trivial)
    (fun _ op _ hLaw => Panel.sirenLaw_apply_iff hLaw op) trivial (sirenLaw_iff.mp h)).symm

theorem sirenLaw_step {g : Gateway} (hBound : g.sensorData.inputChannel ≤ MAX_DECTECTOR)
    (h : SirenLaw g) {event : Event} (hSafe : SirenSafe g event) : SirenLaw (step g event) := by
  rw [sirenLaw_iff, panel_step hBound]
  exact ((sirenSafe_iff h event).mp hSafe).last

theorem sirenLaw_boot {saved : Option SensorData}
    (hNormal : ∀ i, 1 ≤ i → i ≤ MAX_DECTECTOR →
      (saved.getD .zero).dtorSensorState i = .normalSt) (userReset : Bool) (clock : Nat → Int) :
    SirenLaw (boot saved userReset clock) := by
  have hNone : ¬ ∃ i, (1 ≤ i ∧ i ≤ MAX_DECTECTOR) ∧
      (saved.getD .zero).dtorSensorState i = .alarmSt := by
    rintro ⟨i, ⟨hLow, hHigh⟩, hAlarm⟩
    rw [hNormal i hLow hHigh] at hAlarm
    cases hAlarm
  exact ⟨iff_of_false Bool.false_ne_true hNone, iff_of_false Bool.false_ne_true hNone⟩

/-- From an all-normal table the siren follows the table through every run of safe events. -/
theorem siren_follows_alarms {saved : Option SensorData}
    (hSaved : ∀ t, saved = some t → PreviouslySaved t)
    (hNormal : ∀ i, 1 ≤ i → i ≤ MAX_DECTECTOR →
      (saved.getD .zero).dtorSensorState i = .normalSt)
    (userReset : Bool) (clock : Nat → Int) {events : List Event}
    (hSafe : Along step SirenSafe (boot saved userReset clock) events) :
    Always step SirenLaw (boot saved userReset clock) events := by
  have hInit : ChannelInv (boot saved userReset clock) ∧ SirenLaw (boot saved userReset clock) :=
    ⟨ChannelInv.boot hSaved userReset clock, sirenLaw_boot hNormal userReset clock⟩
  refine always_of_invariant (I := fun g => ChannelInv g ∧ SirenLaw g) ?_ (fun g h => h.2) hInit
    hSafe
  rintro g event ⟨hInv, hLaw⟩ hEvent
  exact ⟨hInv.step event, sirenLaw_step hInv.table hLaw hEvent⟩

theorem siren_follows_one_alarm : Always step SirenLaw (boot none false fun _ => 0)
    (startListening ++ [uartData (Report.F.bytes 1), uartData (Report.T.bytes 1)]) :=
  siren_follows_alarms (by simp) (fun _ _ _ => rfl) false (fun _ => 0) (by decide)

/-- Detector 1 is in alarm, detector 2 reports normal, and the siren is off. -/
theorem siren_silenced_by_other_detector : ¬ ∀ events : List Event,
    Always step SirenLaw (boot none false fun _ => 0) events := by
  intro h
  have hRun := h (startListening ++ [uartData (Report.F.bytes 1), uartData (Report.T.bytes 2)])
  revert hRun
  decide

end FcomGateway
