import FcomGateway.Table

/-! # Which detectors are supervised

The heartbeat list and the flags `device_activated` are two stores. Boot enters the registered
detectors into the list; afterwards a report enters its detector whether it is registered or not,
and a removal clears the flag and leaves the list alone.
-/

namespace FcomGateway

open EventTrace

def ActiveOnly (list : List Dtor) (activated : Nat → Nat) : Prop :=
  ∀ id ∈ list.map Dtor.id, activated id = 1

instance (list : List Dtor) (activated : Nat → Nat) : Decidable (ActiveOnly list activated) :=
  inferInstanceAs (Decidable (∀ id ∈ list.map Dtor.id, activated id = 1))

namespace ActiveOnly

variable {list : List Dtor} {activated : Nat → Nat}

theorem addState_iff {id : Nat} (now : Int) :
    ActiveOnly (Heartbeat.addState id now list) activated ↔
      activated id = 1 ∧ ActiveOnly list activated := by
  unfold ActiveOnly
  rw [Heartbeat.addState_ids]
  split
  · rename_i hMem
    exact (and_iff_right_of_imp fun h => h id hMem).symm
  · exact List.forall_mem_cons

theorem popState (h : ActiveOnly list activated) (id : Nat) :
    ActiveOnly (Heartbeat.popState id list) activated := by
  intro other hMem
  exact h other ((List.eraseP_sublist.map Dtor.id).subset hMem)

theorem activate (h : ActiveOnly list activated) (c : Nat) :
    ActiveOnly list (Function.update activated c 1) :=
  fun id hMem => activated_mark (h id hMem) c

theorem deactivate_iff (h : ActiveOnly list activated) {c : Nat} :
    ActiveOnly list (Function.update activated c 0) ↔ c ∉ list.map Dtor.id := by
  constructor
  · intro hKept hMem
    have hZero := hKept c hMem
    rw [Function.update_self] at hZero
    cases hZero
  · intro hNone id hMem
    have hId : id ≠ c := by
      rintro rfl
      exact hNone hMem
    rw [Function.update_of_ne hId, h id hMem]

end ActiveOnly

/-! ## The law -/

/-- Every detector in the heartbeat list is registered. -/
def SupervisionLaw (g : Gateway) : Prop := ActiveOnly g.heartbeat g.sensorData.deviceActivated

instance (g : Gateway) : Decidable (SupervisionLaw g) :=
  inferInstanceAs (Decidable (ActiveOnly _ _))

/-- A lost-connection message that the event posts is about a registered detector. -/
def LostIsRegistered (g : Gateway) (event : Event) : Prop :=
  g.dataProcess.count .ssErrorFlag < (step g event).dataProcess.count .ssErrorFlag →
    g.sensorData.deviceActivated (step g event).sensorData.curDetector = 1

/-- The last reporter of a buffer is registered, or the buffer registers it; a removed detector
is not in the list. -/
def SupervisionSafe (g : Gateway) : Event → Prop
  | .rf input => ∀ d ∈ lastAdd (frames (received input g)),
      g.sensorData.deviceActivated d = 1 ∨
        Registers g (frames (received input g)) ∧
          ∀ j ∈ List.range' 1 (d - 1), g.sensorData.deviceActivated j ≠ 0
  | .removeSub node => Removable node g → node.toNat ∉ g.heartbeat.map Dtor.id
  | _ => True

instance (g : Gateway) : (event : Event) → Decidable (SupervisionSafe g event)
  | .rf input => inferInstanceAs (Decidable (∀ d ∈ lastAdd (frames (received input g)), _))
  | .removeSub node => inferInstanceAs (Decidable (Removable node g → _))
  | .hmi _ | .addSub _ | .stopAddSub | .updateFw | .mqttConnected | .mqttDisconnected
  | .mqttSend | .heartbeat _ _ | .networkType => .isTrue trivial

/-! ## The wired channel -/

def ChannelActive (d : SensorData) : Prop :=
  d.inputChannel = 0 ∨ d.deviceActivated d.inputChannel = 1

theorem channelActive_step {watched : List Dtor} {d d' : SensorData} (h : TableStep watched d d')
    (hActive : ChannelActive d) : ChannelActive d' := by
  cases h with
  | confirm idev _ _ _ => exact hActive.imp_right fun hOne => activated_mark hOne idev
  | wiredSlot c _ => exact Or.inr (Function.update_self c 1 d.deviceActivated)
  | erase i _ _ =>
    by_cases hChannel : d.inputChannel = i
    · exact Or.inl (if_pos hChannel)
    · have hKept : (d.erase i).inputChannel = d.inputChannel := if_neg hChannel
      rw [ChannelActive, hKept]
      refine hActive.imp_right fun hOne => ?_
      rw [← hOne]
      exact Function.update_of_ne hChannel 0 d.deviceActivated
  | _ => exact hActive

abbrev ChannelActiveInv : Gateway → Prop := TableInv ChannelActive

theorem ChannelActiveInv.boot {saved : Option SensorData}
    (hSaved : ∀ t, saved = some t → PreviouslySaved t) (userReset : Bool) (clock : Nat → Int) :
    ChannelActiveInv (boot saved userReset clock) :=
  boot_tableInv (Or.inl rfl)
    (fun t hTable => (hSaved t hTable).inv (Or.inl rfl) fun _ _ _ => channelActive_step)
    userReset clock

/-! ## One event -/

theorem registered_reporter {g : Gateway} {list : List Frame} {d : Nat}
    (hLast : lastAdd list = some d) (hLow : 1 ≤ d) :
    registeredSlot g list = some d ↔
      Registers g list ∧ ∀ j ∈ List.range' 1 (d - 1), g.sensorData.deviceActivated j ≠ 0 := by
  have hBelow : (∀ j ∈ List.range' 1 (d - 1), g.sensorData.deviceActivated j ≠ 0) ↔
      ∀ j, 1 ≤ j → j < d → g.sensorData.deviceActivated j ≠ 0 := by
    refine forall_congr' fun j => ?_
    rw [List.mem_range'_1, and_imp, show 1 + (d - 1) = d by omega]
  rw [hBelow, registeredSlot_eq_some, hLast]
  constructor
  · rintro ⟨hAsked, _, ⟨⟩, _, hFree, hFirst⟩
    exact ⟨⟨hAsked, d, hLast, d, List.mem_range'_1.mpr ⟨hLow, by omega⟩, hFree⟩, hFirst⟩
  · rintro ⟨⟨hAsked, d', hLast', c, hMem, hFree⟩, hFirst⟩
    rw [hLast] at hLast'
    cases hLast'
    have hRange := List.mem_range'_1.mp hMem
    have hSlot : c = d := by
      by_contra hNe
      exact hFirst c hRange.1 (by omega) hFree
    exact ⟨hAsked, d, rfl, ⟨hLow, le_refl d⟩, hSlot ▸ hFree, hFirst⟩

theorem supervisionLaw_handler {g : Gateway} (hIdle : g.isSensorFeedback = false)
    (hLaw : SupervisionLaw g) (now : Int) (dtmp : List UInt8) :
    SupervisionLaw (sensorDataHandler now dtmp g) ↔ ∀ d ∈ lastAdd (frames dtmp),
      g.sensorData.deviceActivated d = 1 ∨ Registers g (frames dtmp) ∧
        ∀ j ∈ List.range' 1 (d - 1), g.sensorData.deviceActivated j ≠ 0 := by
  have hActive : ∀ d, (sensorDataHandler now dtmp g).sensorData.deviceActivated d = 1 ↔
      g.sensorData.deviceActivated d = 1 ∨ registeredSlot g (frames dtmp) = some d := by
    intro d
    rw [sensorDataHandler_deviceActivated now dtmp hIdle]
    cases registeredSlot g (frames dtmp) with
    | none => simp
    | some c =>
      by_cases hSlot : d = c
      · simp [hSlot]
      · simp [hSlot, eq_comm (a := c)]
  have hKept : ActiveOnly g.heartbeat (sensorDataHandler now dtmp g).sensorData.deviceActivated :=
    fun id hMem => (hActive id).mpr (Or.inl (hLaw id hMem))
  rw [SupervisionLaw, sensorDataHandler_heartbeat now dtmp hIdle]
  cases hLast : lastAdd (frames dtmp) with
  | none => exact iff_of_true hKept nofun
  | some d =>
    have hReporter := registered_reporter (g := g) hLast (lastAdd_bounds hLast).1
    simp only [ActiveOnly.addState_iff, hActive, hReporter, and_iff_left hKept]
    constructor
    · rintro h _ ⟨⟩
      exact h
    · intro h
      exact h d rfl

theorem supervisionLaw_wiredRegister {g : Gateway} (hLaw : SupervisionLaw g)
    (reads : PollReads) : SupervisionLaw (wiredRegister reads g) := by
  unfold wiredRegister
  split
  · rename_i c _
    exact (ActiveOnly.addState_iff _).mpr ⟨Function.update_self c 1 _, hLaw.activate c⟩
  · exact hLaw

/-- A wired report enters the channel into the list, which is registered. -/
theorem supervisionLaw_wired {g : Gateway} (hLaw : SupervisionLaw g) (reads : PollReads)
    (hActive : g.sensorData.deviceActivated g.sensorData.inputChannel = 1) :
    SupervisionLaw (wiredT reads g) ∧ SupervisionLaw (wiredF reads g) ∧
      SupervisionLaw (wiredE reads g) := by
  have hAdded := (ActiveOnly.addState_iff reads.addTime).mpr ⟨hActive, hLaw⟩
  refine ⟨?_, ?_, ?_⟩
  · rw [wiredT, updateRelayAlarmState_eq]
    exact hAdded
  · rw [wiredF, updateRelayAlarmState_eq]
    exact hAdded
  · exact hAdded

theorem supervisionLaw_step_iff {g : Gateway} (hIdle : g.isSensorFeedback = false)
    (hChannel : ChannelActive g.sensorData) (hLaw : SupervisionLaw g) (event : Event) :
    SupervisionLaw (step g event) ↔ SupervisionSafe g event := by
  cases event with
  | rf input =>
    rcases rfHandleExtTask_cases input g with
      ⟨now, hHandle⟩ | ⟨hNone, ⟨mode, hPost⟩ | ⟨mode, count, status, hMove⟩⟩
    · rw [step, hHandle]
      exact supervisionLaw_handler hIdle hLaw now (received input g)
    · rw [step, hPost, SupervisionSafe, hNone]
      exact iff_of_true hLaw fun d hLast => absurd hLast (Option.not_mem_none d)
    · rw [step, hMove, SupervisionSafe, hNone]
      exact iff_of_true hLaw fun d hLast => absurd hLast (Option.not_mem_none d)
  | hmi reads =>
    refine iff_of_true ?_ trivial
    rcases hmiProcess_cases reads g with ⟨_, b, hSame⟩ | ⟨_, hRegister⟩ | ⟨hUsed, hReport⟩
    · rw [step, hSame]
      exact hLaw
    · rw [step, hRegister]
      exact supervisionLaw_wiredRegister (g := { g with isStartAddDevice := true }) hLaw reads
    · obtain ⟨hT, hF, hE⟩ := supervisionLaw_wired hLaw reads (hChannel.resolve_left hUsed)
      rcases hReport with ⟨_, hStep⟩ | ⟨_, hStep⟩ | ⟨_, hStep⟩
      · rw [step, hStep]
        exact hT
      · rw [step, hStep]
        exact hF
      · rw [step, hStep]
        exact hE
  | addSub code | stopAddSub | updateFw | networkType | mqttDisconnected =>
    exact iff_of_true hLaw trivial
  | removeSub node =>
    rcases removeSubDevices_cases node g with ⟨hRemove, hErase⟩ | ⟨hRemove, hSame⟩
    · rw [step, SupervisionSafe, hErase, forall_prop_of_true hRemove]
      exact hLaw.deactivate_iff
    · rw [step, SupervisionSafe, hSame]
      exact iff_of_true hLaw fun h => absurd h hRemove
  | mqttConnected =>
    obtain ⟨_, _, _, hConnected⟩ := mqttConnected_eq g
    rw [step, hConnected]
    exact iff_of_true hLaw trivial
  | mqttSend =>
    rcases mqttSendTask_cases g with hSame | ⟨event, rest, _, hHandle⟩
    · rw [step, hSame]
      exact iff_of_true hLaw trivial
    · obtain ⟨_, _, _, _, hSend, _⟩ := handleDataEvent_sends event { g with dataProcess := rest }
      rw [step, hHandle, hSend]
      exact iff_of_true hLaw trivial
  | heartbeat now id =>
    refine iff_of_true ?_ trivial
    simp only [step, checkHeartbeat]
    split
    · split
      · exact hLaw.popState _
      · exact hLaw
    · exact hLaw

/-! ## Lost-connection messages -/

/-- Only the heartbeat task posts `SS_ERROR_FLAG`. -/
theorem lostCount_step {event : Event} (hEvent : ∀ now id, event ≠ .heartbeat now id)
    (g : Gateway) :
    (step g event).dataProcess.count .ssErrorFlag ≤ g.dataProcess.count .ssErrorFlag := by
  by_cases hConnected : event = .mqttConnected
  · rw [hConnected, step, FcomGateway.mqttConnected]
    split
    · dsimp only
      split
      · change (enqueue .gwResetSsState (enqueue .gwFeedbackFlag g.dataProcess)).count _ ≤ _
        rw [count_enqueue_of_ne .gwResetSsState .ssErrorFlag (by decide),
          count_enqueue_of_ne .gwFeedbackFlag .ssErrorFlag (by decide)]
      · exact (count_enqueue_of_ne .gwFeedbackFlag .ssErrorFlag (by decide) _).le
    · exact le_refl _
  by_cases hSend : event = .mqttSend
  · rcases mqttSendTask_cases g with hSame | ⟨taken, rest, hQueue, hHandle⟩
    · rw [hSend, step, hSame]
    · rw [hSend, step, hHandle, handleDataEvent_dataProcess, hQueue]
      exact (List.sublist_cons_self taken rest).count_le _
  · have hNever : DataEvent.ssErrorFlag ∉ event.posts := by
      cases event with
      | heartbeat now id => exact absurd rfl (hEvent now id)
      | _ => simp [Event.posts]
    exact ((step_posts hConnected hSend g).count_eq hNever).le

theorem lostIsRegistered_of_law {g : Gateway} (hLaw : SupervisionLaw g) (event : Event) :
    LostIsRegistered g event := by
  intro hPosted
  by_cases hSweep : ∃ now id, event = .heartbeat now id
  · obtain ⟨now, id, rfl⟩ := hSweep
    revert hPosted
    simp only [step, checkHeartbeat]
    split
    · rename_i checker hFind
      split
      · intro _
        exact hLaw checker.id (List.mem_map_of_mem (List.mem_of_find?_eq_some hFind))
      · exact fun h => absurd h (lt_irrefl _)
    · exact fun h => absurd h (lt_irrefl _)
  · have hQuiet := lostCount_step (fun now id hEvent => hSweep ⟨now, id, hEvent⟩) g
    exact absurd hPosted (not_lt_of_ge hQuiet)

/-! ## Runs -/

theorem initHeartbeat_active (d : SensorData) (clock : Nat → Int) :
    ActiveOnly (initHeartbeat d clock) d.deviceActivated := by
  suffices h : ∀ (iters : List Nat) (list : List Dtor), ActiveOnly list d.deviceActivated →
      ActiveOnly (iters.foldl (fun list iter => if d.deviceActivated iter = 1 then
        Heartbeat.addState iter (clock iter) list else list) list) d.deviceActivated from
    h _ [] nofun
  intro iters
  induction iters with
  | nil => exact fun _ hActive => hActive
  | cons iter iters ih =>
    intro list hActive
    rw [List.foldl_cons]
    apply ih
    split
    · rename_i hOne
      exact (ActiveOnly.addState_iff _).mpr ⟨hOne, hActive⟩
    · exact hActive

/-- Supervision stays with the registered detectors, in the list and in the messages, exactly
when no unregistered detector reports without registering and no detector in the list is
removed. -/
theorem supervision_always_iff {saved : Option SensorData}
    (hSaved : ∀ t, saved = some t → PreviouslySaved t) (userReset : Bool) (clock : Nat → Int)
    (events : List Event) :
    (Always step SupervisionLaw (boot saved userReset clock) events ∧
      Along step LostIsRegistered (boot saved userReset clock) events) ↔
      Along step SupervisionSafe (boot saved userReset clock) events := by
  have hKept : ∀ g event, ChannelActiveInv g ∧ g.isSensorFeedback = false →
      ChannelActiveInv (step g event) ∧ (step g event).isSensorFeedback = false :=
    fun g event h => ⟨h.1.step (fun _ _ => channelActive_step) event,
      step_isSensorFeedback h.2 event⟩
  have hInit : ChannelActiveInv (boot saved userReset clock) ∧
      (boot saved userReset clock).isSensorFeedback = false :=
    ⟨ChannelActiveInv.boot hSaved userReset clock, rfl⟩
  have hLaw : Always step SupervisionLaw (boot saved userReset clock) events ↔
      Along step SupervisionSafe (boot saved userReset clock) events :=
    always_iff_along hKept
      (fun g event h hLaw => supervisionLaw_step_iff h.2 h.1.table hLaw event) hInit
      (initHeartbeat_active (saved.getD .zero) clock)
  rw [hLaw]
  refine and_iff_left_of_imp fun hSafe => ?_
  exact along_of_always hKept (fun _ event _ hLaw => lostIsRegistered_of_law hLaw event)
    hInit (hLaw.mpr hSafe)

theorem supervision_of_registered :
    Always step SupervisionLaw (boot none false fun _ => 0) (startListening ++
      [uartData requestBytes, .rf ⟨false, none⟩, uartData (Report.F.bytes 1)]) ∧
    Along step LostIsRegistered (boot none false fun _ => 0) (startListening ++
      [uartData requestBytes, .rf ⟨false, none⟩, uartData (Report.F.bytes 1)]) :=
  (supervision_always_iff (by simp) false (fun _ => 0) _).mpr (by decide)

theorem unregistered_supervised : ¬ ∀ events : List Event,
    Always step SupervisionLaw (boot none false fun _ => 0) events := by
  intro h
  have hRun := (h (startListening ++ [uartData (Report.F.bytes 5)])).last
  revert hRun
  decide

end FcomGateway
