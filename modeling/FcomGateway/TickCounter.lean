import FcomGateway.PlantControl
import FcomGateway.System

/-! # The tick counter

`periodic_timer_callback` counts milliseconds; the RF and the BLE task keep an earlier value and
compare the unsigned difference with a bound. At its maximum the counter is set to 0 and then
incremented, so that its values go round from 1 to `UINT32_MAX`.
-/

namespace FcomGateway

def UINT32_MAX : UInt32 := 0xFFFFFFFF

def OTA_UPDATE_TIME : UInt32 := 500

def usertimerGettick (tickTime : UInt32) : UInt32 := tickTime

def periodicTimerCallback (tickTime : UInt32) : UInt32 :=
  (if UINT32_MAX ≤ tickTime then 0 else tickTime) + 1

def ticks (n : Nat) (tickTime : UInt32) : UInt32 := periodicTimerCallback^[n] tickTime

/-! ## The two tests of elapsed time -/

/-- The test of `FINDING_SUB` -/
def rfElapsed (now prevSendCmd : UInt32) : Bool := decide (500 < now - prevSendCmd)

/-- The test of `OTA_START` and of `OTA_DONE` -/
def bleElapsed (now bleNotiNext : UInt32) : Bool := decide (OTA_UPDATE_TIME ≤ now - bleNotiNext)

/-- A pass of the RF task at a value of the counter: `prev_send_cmd` and the gateway behind it. -/
def rfPass (tickTime : UInt32) (uart : Option (Int × List UInt8)) (prevSendCmd : UInt32)
    (g : Gateway) : UInt32 × Gateway :=
  let elapsed := rfElapsed (usertimerGettick tickTime) prevSendCmd
  (if g.ssStateMachine = .initCmd then usertimerGettick tickTime else prevSendCmd,
    rfHandleExtTask ⟨elapsed, uart⟩ g)

/-- A pass of `ble_ota_noti_task`, which reads the counter again behind a notification; gives
`ble_noti_next` and whether it notified. -/
def bleOtaNotiTask (isStartOta : OtaState) (bleStatus : Bool)
    (tickTime later bleNotiNext : UInt32) : UInt32 × Bool :=
  match isStartOta with
  | .otaPending => (usertimerGettick tickTime, false)
  | .otaStart | .otaDone =>
    if bleStatus = true ∧ bleElapsed (usertimerGettick tickTime) bleNotiNext then
      (usertimerGettick later, true)
    else (bleNotiNext, false)

/-- The counter measures the time between two readings, and the tests are exact. -/
structure TickLaw (start n : UInt32) : Prop where
  difference : usertimerGettick (ticks n.toNat start) - usertimerGettick start = n
  rf : rfElapsed (usertimerGettick (ticks n.toNat start)) (usertimerGettick start) = true ↔ 500 < n
  ble : bleElapsed (usertimerGettick (ticks n.toNat start)) (usertimerGettick start) = true ↔
    500 ≤ n

/-! ## The counter over any number of callbacks -/

theorem periodicTimerCallback_toNat (tickTime : UInt32) :
    (periodicTimerCallback tickTime).toNat = tickTime.toNat % (2 ^ 32 - 1) + 1 := by
  have hBound := tickTime.toNat_lt
  rw [periodicTimerCallback, UINT32_MAX]
  split
  · rename_i hMax
    rw [UInt32.le_iff_toNat_le] at hMax
    change 4294967295 ≤ _ at hMax
    have hValue : tickTime.toNat = 2 ^ 32 - 1 := by omega
    rw [hValue]
    rfl
  · rename_i hLess
    rw [UInt32.not_le, UInt32.lt_iff_toNat_lt] at hLess
    change _ < 4294967295 at hLess
    rw [UInt32.toNat_add, UInt32.toNat_one, Nat.mod_eq_of_lt (by omega),
      Nat.mod_eq_of_lt (by omega)]

theorem ticks_succ (n : Nat) (tickTime : UInt32) :
    ticks (n + 1) tickTime = periodicTimerCallback (ticks n tickTime) :=
  Function.iterate_succ_apply' _ _ _

/-- The values behind any callback go round in `2 ^ 32 - 1` steps, without the 0. -/
theorem ticks_toNat (n : Nat) (tickTime : UInt32) :
    (ticks (n + 1) tickTime).toNat = (tickTime.toNat + n) % (2 ^ 32 - 1) + 1 := by
  induction n with
  | zero => exact periodicTimerCallback_toNat tickTime
  | succ n ih => rw [ticks_succ, periodicTimerCallback_toNat, ih, Nat.mod_add_mod, Nat.add_assoc]

/-- The difference is the number of callbacks until the counter goes round, and then one more. -/
theorem difference_toNat (start n : UInt32) :
    (usertimerGettick (ticks n.toNat start) - usertimerGettick start).toNat =
      if start.toNat + n.toNat < 2 ^ 32 then n.toNat else (n.toNat + 1) % 2 ^ 32 := by
  have hStart := start.toNat_lt
  have hNumber := n.toNat_lt
  rw [usertimerGettick, usertimerGettick, UInt32.toNat_sub]
  cases hCount : n.toNat with
  | zero =>
    rw [Nat.add_zero, if_pos hStart]
    change (2 ^ 32 - start.toNat + start.toNat) % 2 ^ 32 = 0
    omega
  | succ m =>
    rw [ticks_toNat]
    split
    · rename_i hBefore
      have hValue : (start.toNat + m) % (2 ^ 32 - 1) = start.toNat + m :=
        Nat.mod_eq_of_lt (by omega)
      rw [hValue]
      omega
    · rename_i hRound
      have hValue : (start.toNat + m) % (2 ^ 32 - 1) = start.toNat + m - (2 ^ 32 - 1) := by
        rw [Nat.mod_eq_sub_mod (by omega), Nat.mod_eq_of_lt (by omega)]
      rw [hValue]
      omega

theorem TickLaw.of_before {start n : UInt32} (h : start.toNat + n.toNat < 2 ^ 32) :
    TickLaw start n := by
  have hDifference := difference_toNat start n
  rw [if_pos h] at hDifference
  have hSame := UInt32.toNat_inj.mp hDifference
  refine ⟨hSame, ?_, ?_⟩
  · rw [rfElapsed, hSame, decide_eq_true_iff]
  · rw [bleElapsed, hSame, decide_eq_true_iff, OTA_UPDATE_TIME]

theorem tickLaw_iff (start n : UInt32) : TickLaw start n ↔ start.toNat + n.toNat < 2 ^ 32 := by
  constructor
  · intro hLaw
    by_contra hRound
    have hNumber := n.toNat_lt
    have hDifference := difference_toNat start n
    rw [hLaw.difference, if_neg hRound] at hDifference
    omega
  · exact TickLaw.of_before

theorem tickLaw_fails_at_max : ¬ TickLaw UINT32_MAX 1 := by
  intro hLaw
  exact absurd hLaw.difference (by decide)

/-! ## The passes of the two tasks -/

/-- Where the counter went round, the bound is reached one callback early at most. -/
theorem elapsed_late {start n : UInt32}
    (h : rfElapsed (usertimerGettick (ticks n.toNat start)) (usertimerGettick start) = true) :
    500 ≤ n.toNat := by
  have hNumber := n.toNat_lt
  have hDifference := difference_toNat start n
  rw [rfElapsed, decide_eq_true_iff, UInt32.lt_iff_toNat_lt, hDifference] at h
  change 500 < _ at h
  split at h <;> omega

theorem findingSub_iff {input : RfInput} {g : Gateway} (h : g.ssStateMachine = .findingSub) :
    (rfHandleExtTask input g).ssStateMachine = .findingSub ↔ ¬ input.elapsed = true := by
  rw [rfHandleExtTask, h]
  dsimp only
  split
  · rename_i hElapsed
    refine iff_of_false ?_ (not_not.mpr hElapsed)
    dsimp only
    split <;> exact MasterRfEvent.noConfusion
  · rename_i hNot
    exact iff_of_true h hNot

/-- The pass that sets `prev_send_cmd` and a pass after `n` callbacks: the second sends `{T00}`
exactly if more than 500 callbacks came between them. -/
theorem rfPass_announces {start n prev : UInt32} {uart uart' : Option (Int × List UInt8)}
    {g : Gateway} (hMode : g.ssStateMachine = .initCmd) (h : start.toNat + n.toNat < 2 ^ 32) :
    (rfPass (ticks n.toNat start) uart' (rfPass start uart prev g).1
        (rfPass start uart prev g).2).2.ssStateMachine = .findingSub ↔ ¬ 500 < n := by
  have hFirst : rfPass start uart prev g =
      (usertimerGettick start, { g with ssStateMachine := .findingSub }) := by
    simp only [rfPass, rfHandleExtTask, hMode, if_true]
  rw [hFirst, ← (TickLaw.of_before h).rf]
  exact findingSub_iff rfl

theorem bleOtaNotiTask_notifies {start n later later' next : UInt32} {isStartOta : OtaState}
    {bleStatus bleStatus' : Bool} (hOta : isStartOta ≠ .otaPending)
    (h : start.toNat + n.toNat < 2 ^ 32) :
    (bleOtaNotiTask isStartOta bleStatus' (ticks n.toNat start) later'
        (bleOtaNotiTask .otaPending bleStatus start later next).1).2 = true ↔
      bleStatus' = true ∧ 500 ≤ n := by
  have hTest := (TickLaw.of_before h).ble
  have hNotifies : (bleOtaNotiTask isStartOta bleStatus' (ticks n.toNat start) later'
      (usertimerGettick start)).2 = true ↔ bleStatus' = true ∧
        bleElapsed (usertimerGettick (ticks n.toNat start)) (usertimerGettick start) = true := by
    cases isStartOta with
    | otaPending => exact absurd rfl hOta
    | otaStart | otaDone =>
      rw [bleOtaNotiTask]
      split <;> rename_i hCondition
      · exact iff_of_true rfl hCondition
      · exact iff_of_false Bool.false_ne_true hCondition
  rw [bleOtaNotiTask, hNotifies, hTest]

end FcomGateway
