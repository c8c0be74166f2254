import FcomGateway.GwJob
import Mathlib.Data.List.ReduceOption

/-! # Jobs in several data events

`deliver_publish` dispatches a payload that is longer than its buffer in several events, and the
handler gives every part to `json_parser_gw_job`. The outcome is the one of the whole payload only
where the parts, read on their own, ask for the same.
-/

namespace FcomGateway

open EventTrace CJson

/-! ## The events of a payload -/

structure MqttData where
  data : List UInt8
  currentDataOffset : Nat
  totalDataLen : Nat

def dataEvents (totalDataLen : Nat) : Nat → List (List UInt8) → List MqttData
  | _, [] => []
  | offset, part :: rest =>
    ⟨part, offset, totalDataLen⟩ :: dataEvents totalDataLen (offset + part.length) rest

/-- `deliver_publish` for a payload that it reads in these parts. -/
def deliverPublish (parts : List (List UInt8)) : List MqttData :=
  dataEvents parts.flatten.length 0 parts

/-- The case `MQTT_EVENT_DATA`. -/
def mqttEventHandlerCb (s : JobState) (event : MqttData) : Option JobState :=
  jsonParserGwJob s event.data

/-- The state without the record of its past. -/
def JobState.observed (s : JobState) : JobState :=
  { s with gateway := { s.gateway with log := [] } }

/-- The events of a payload have the effect of the payload. -/
def DeliveryLaw (parts : List (List UInt8)) : Prop :=
  ∀ s : JobState, s.gateway.sensorData.maxDetector ≤ MAX_DECTECTOR →
    ((deliverPublish parts).foldlM mqttEventHandlerCb s).map JobState.observed =
      (jsonParserGwJob s parts.flatten).map JobState.observed

/-! ## What the parts ask for -/

/-- A removal acts for a detector only. -/
def JobCommand.Acts : JobCommand → Prop
  | .removeSubDevices node => 1 ≤ node ∧ node ≤ MAX_DECTECTOR
  | _ => True

instance : DecidablePred JobCommand.Acts
  | .removeSubDevices _ => inferInstanceAs (Decidable (_ ∧ _))
  | .addSubDevices _ | .stopAddSubDevices | .updateFw _ => isTrue trivial

def JobCommand.IsRemoval : JobCommand → Prop
  | .removeSubDevices _ => True
  | _ => False

instance : DecidablePred JobCommand.IsRemoval
  | .removeSubDevices _ => isTrue trivial
  | .addSubDevices _ | .stopAddSubDevices | .updateFw _ => isFalse not_false

def acting (jobs : List Job) : List JobCommand :=
  (jobs.filterMap Job.command).filter fun c => decide c.Acts

/-- The same commands, or the same removal more than once. -/
def Repeats (commands wanted : List JobCommand) : Prop :=
  commands = wanted ∨ commands ≠ [] ∧ ∀ c ∈ commands, c.IsRemoval ∧ wanted = [c]

instance (commands wanted : List JobCommand) : Decidable (Repeats commands wanted) :=
  inferInstanceAs (Decidable (_ ∨ _))

/-- The last id and the commands of the parts are those of the payload. -/
structure SameJobs (jobs : List Job) (payload : Option Job) : Prop where
  id : jobs.getLast?.map Job.id = payload.map Job.id
  commands : Repeats (acting jobs) (acting payload.toList)

instance (jobs : List Job) (payload : Option Job) : Decidable (SameJobs jobs payload) :=
  decidable_of_iff (_ ∧ _) ⟨fun h => ⟨h.1, h.2⟩, fun h => ⟨h.id, h.commands⟩⟩

/-- Both sides make `json_parser_gw_job` leave its memory, or none of them does. -/
def Agree : Option (List (Option Job)) → Option (Option Job) → Prop
  | none, none => True
  | some jobs, some payload => SameJobs jobs.reduceOption payload
  | _, _ => False

instance : ∀ parts payload, Decidable (Agree parts payload)
  | none, none => isTrue trivial
  | some jobs, some payload => inferInstanceAs (Decidable (SameJobs jobs.reduceOption payload))
  | some _, none => isFalse not_false
  | none, some _ => isFalse not_false

/-- Read on their own, the parts ask for what the payload asks for. -/
def SplitSafe (parts : List (List UInt8)) : Prop :=
  Agree (parts.mapM readJob) (readJob parts.flatten)

instance (parts : List (List UInt8)) : Decidable (SplitSafe parts) :=
  inferInstanceAs (Decidable (Agree _ _))

/-! ## The parts one after the other -/

theorem foldlM_dataEvents (totalDataLen offset : Nat) (parts : List (List UInt8)) (s : JobState) :
    (dataEvents totalDataLen offset parts).foldlM mqttEventHandlerCb s =
      parts.foldlM jsonParserGwJob s := by
  induction parts generalizing offset s with
  | nil => rfl
  | cons part rest ih =>
    rw [dataEvents, List.foldlM_cons, List.foldlM_cons]
    exact Option.bind_congr fun s' _ => ih _ s'

theorem foldlM_jsonParserGwJob (parts : List (List UInt8)) (s : JobState) :
    parts.foldlM jsonParserGwJob s =
      (parts.mapM readJob).map fun jobs => run Job.run s jobs.reduceOption := by
  induction parts generalizing s with
  | nil => rfl
  | cons part rest ih =>
    rw [List.foldlM_cons, List.mapM_cons, jsonParserGwJob]
    cases readJob part with
    | none => rfl
    | some job =>
      refine (ih _).trans ?_
      simp only [Option.pure_def, Option.bind_eq_bind, Option.bind_some, Option.map_bind]
      cases rest.mapM readJob with
      | none => rfl
      | some jobs => cases job <;> rfl

/-! ## Commands that act -/

@[simp] theorem run_maxDetector (c : JobCommand) (s : JobState) :
    (c.run s).gateway.sensorData.maxDetector = s.gateway.sensorData.maxDetector := by
  cases c with
  | removeSubDevices node =>
    rw [JobCommand.run]
    rcases removeSubDevices_cases node s.gateway with ⟨_, hErase⟩ | ⟨_, hSame⟩
    · rw [hErase]
      rfl
    · rw [hSame]
  | addSubDevices | stopAddSubDevices | updateFw => rfl

theorem run_inert {c : JobCommand} (hc : ¬ c.Acts) {s : JobState}
    (hMax : s.gateway.sensorData.maxDetector ≤ MAX_DECTECTOR) : c.run s = s := by
  cases c with
  | removeSubDevices node =>
    have hNode : ¬ Removable node s.gateway := by
      rintro ⟨hLow, hHigh⟩
      exact hc ⟨hLow, hHigh.trans (Int.ofNat_le.mpr hMax)⟩
    rw [JobCommand.run, FcomGateway.removeSubDevices, flashEraseSensorData_neg hNode]
  | addSubDevices | stopAddSubDevices | updateFw => exact absurd trivial hc

theorem run_filter_acts (commands : List JobCommand) {s : JobState}
    (hMax : s.gateway.sensorData.maxDetector ≤ MAX_DECTECTOR) :
    run JobCommand.run s (commands.filter fun c => decide c.Acts) =
      run JobCommand.run s commands := by
  induction commands generalizing s with
  | nil => rfl
  | cons c rest ih =>
    by_cases hc : c.Acts
    · rw [List.filter_cons, if_pos (decide_eq_true hc), run_cons, run_cons]
      exact ih ((run_maxDetector c s).trans_le hMax)
    · rw [List.filter_cons, if_neg (by simpa using hc), run_cons, run_inert hc hMax]
      exact ih hMax

/-! ## The same removal more than once -/

theorem erase_erase (d : SensorData) {idx : Nat} (hIdx : idx ≠ 0) :
    (d.erase idx).erase idx = d.erase idx := by
  have hChannel : (if (if d.inputChannel = idx then 0 else d.inputChannel) = idx then 0
      else if d.inputChannel = idx then 0 else d.inputChannel) =
        if d.inputChannel = idx then 0 else d.inputChannel := by
    split
    · rw [if_neg hIdx.symm]
    · rfl
  simp only [SensorData.erase, hChannel, Function.update_idem, findCurDetector]

theorem run_removal_twice (node : Int) (s : JobState) :
    ((JobCommand.removeSubDevices node).run
      ((JobCommand.removeSubDevices node).run s)).observed =
        ((JobCommand.removeSubDevices node).run s).observed := by
  simp only [JobCommand.run]
  rcases removeSubDevices_cases node s.gateway with ⟨hRemove, hErase⟩ | ⟨_, hSame⟩
  · have hAgain : Removable node (FcomGateway.removeSubDevices node s.gateway) := by
      rw [hErase]
      exact hRemove
    have hNode : node.toNat ≠ 0 := by
      have hLow := hRemove.1
      omega
    have hTwice : FcomGateway.removeSubDevices node
        (FcomGateway.removeSubDevices node s.gateway) = _ := flashEraseSensorData_pos hAgain
    rw [hTwice, hErase]
    simp only [JobState.observed, Gateway.record, flashSaveSensorData,
      erase_erase s.gateway.sensorData hNode]
  · rw [hSame, hSame]

theorem run_removals {node : Int} {commands : List JobCommand}
    (hAll : ∀ c ∈ commands, c = .removeSubDevices node) (s : JobState) :
    (run JobCommand.run ((JobCommand.removeSubDevices node).run s) commands).observed =
      ((JobCommand.removeSubDevices node).run s).observed := by
  induction commands generalizing s with
  | nil => rfl
  | cons c rest ih =>
    rw [run_cons, hAll c List.mem_cons_self,
      ih (fun c' hc' => hAll c' (List.mem_cons_of_mem c hc')), run_removal_twice]

theorem Repeats.observed {commands wanted : List JobCommand} (h : Repeats commands wanted)
    (s : JobState) :
    (run JobCommand.run s commands).observed = (run JobCommand.run s wanted).observed := by
  rcases h with rfl | ⟨hSome, hAll⟩
  · rfl
  · obtain ⟨first, rest, rfl⟩ := List.exists_cons_of_ne_nil hSome
    obtain ⟨hRemoval, rfl⟩ := hAll first List.mem_cons_self
    cases first with
    | removeSubDevices node =>
      refine run_removals (fun c hc => ?_) s
      exact (List.cons.inj (hAll c (List.mem_cons_of_mem _ hc)).2).1.symm
    | addSubDevices | stopAddSubDevices | updateFw => exact absurd hRemoval not_false

/-! ## What a state shows of the commands -/

def JobCommand.post : JobCommand → Option DataEvent
  | .addSubDevices _ => some .jobRequestedFeedbackFlag
  | .stopAddSubDevices => some .gwFeedbackFlag
  | .removeSubDevices _ => none
  | .updateFw _ => some .jobRequestedOta

theorem removeSubDevices_dataProcess (node : Int) (g : Gateway) :
    (removeSubDevices node g).dataProcess = g.dataProcess := by
  rcases removeSubDevices_cases node g with ⟨_, hErase⟩ | ⟨_, hSame⟩
  · rw [hErase]
    rfl
  · rw [hSame]

theorem run_dataProcess (commands : List JobCommand) (s : JobState) :
    (run JobCommand.run s commands).gateway.dataProcess =
      (commands.filterMap JobCommand.post).foldl (fun queue event => enqueue event queue)
        s.gateway.dataProcess := by
  induction commands generalizing s with
  | nil => rfl
  | cons c rest ih =>
    rw [run_cons, ih]
    cases c with
    | removeSubDevices node =>
      rw [List.filterMap_cons_none rfl, JobCommand.run]
      exact congrArg (fun queue => List.foldl _ queue _)
        (removeSubDevices_dataProcess node s.gateway)
    | addSubDevices | stopAddSubDevices | updateFw => rfl

theorem foldl_enqueue (events : List DataEvent) {queue : List DataEvent}
    (hQueue : queue.length ≤ DATA_PROCESS_LENGTH) :
    events.foldl (fun queue event => enqueue event queue) queue =
      queue ++ events.take (DATA_PROCESS_LENGTH - queue.length) := by
  induction events generalizing queue with
  | nil => simp
  | cons event rest ih =>
    rw [List.foldl_cons]
    by_cases hRoom : queue.length < DATA_PROCESS_LENGTH
    · have hLeft : DATA_PROCESS_LENGTH - queue.length =
          DATA_PROCESS_LENGTH - (queue ++ [event]).length + 1 := by
        rw [List.length_append, List.length_singleton]
        omega
      have hEnqueue : enqueue event queue = queue ++ [event] := if_pos hRoom
      rw [hEnqueue, ih (by rw [List.length_append, List.length_singleton]; omega), hLeft,
        List.take_succ_cons, List.append_assoc, List.singleton_append]
    · have hEnqueue : enqueue event queue = queue := if_neg hRoom
      rw [hEnqueue, ih hQueue, Nat.sub_eq_zero_of_le (Nat.not_lt.mp hRoom), List.take_zero,
        List.take_zero]

theorem run_deviceActivated (c : JobCommand) (s : JobState) {i : Nat} (hLow : 1 ≤ i)
    (hHigh : i ≤ s.gateway.sensorData.maxDetector) :
    (c.run s).gateway.sensorData.deviceActivated i =
      if c = .removeSubDevices i then 0 else s.gateway.sensorData.deviceActivated i := by
  cases c with
  | removeSubDevices node =>
    rw [JobCommand.run]
    simp only [JobCommand.removeSubDevices.injEq]
    rcases removeSubDevices_cases node s.gateway with ⟨⟨hNode, _⟩, hErase⟩ | ⟨hRemove, hSame⟩
    · rw [hErase]
      by_cases hi : node = i
      · rw [if_pos hi]
        subst hi
        exact Function.update_self _ _ _
      · rw [if_neg hi]
        exact Function.update_of_ne (by omega) _ _
    · rw [hSame, if_neg]
      rintro rfl
      exact hRemove ⟨Int.ofNat_le.mpr hLow, Int.ofNat_le.mpr hHigh⟩
  | addSubDevices | stopAddSubDevices | updateFw => rfl

theorem run_commands_deviceActivated (commands : List JobCommand) (s : JobState) {i : Nat}
    (hLow : 1 ≤ i) (hHigh : i ≤ s.gateway.sensorData.maxDetector) :
    (run JobCommand.run s commands).gateway.sensorData.deviceActivated i =
      if .removeSubDevices i ∈ commands then 0
      else s.gateway.sensorData.deviceActivated i := by
  induction commands generalizing s with
  | nil => rfl
  | cons c rest ih =>
    rw [run_cons, ih (c.run s) ((run_maxDetector c s).symm ▸ hHigh),
      run_deviceActivated c s hLow hHigh]
    by_cases hRest : .removeSubDevices i ∈ rest
    · rw [if_pos hRest, if_pos (List.mem_cons_of_mem c hRest)]
    · rw [if_neg hRest]
      simp only [List.mem_cons, hRest, or_false, eq_comm]

theorem eq_of_getD {α : Type} [Nontrivial α] {a b : Option α}
    (h : ∀ x, a.getD x = b.getD x) : a = b := by
  cases a with
  | none =>
    cases b with
    | none => rfl
    | some y =>
      obtain ⟨x, hx⟩ := exists_ne y
      exact absurd (h x) hx
  | some x =>
    cases b with
    | none =>
      obtain ⟨y, hy⟩ := exists_ne x
      exact absurd (h y).symm hy
    | some y => exact congrArg some (h x)

/-- All detectors are active and the queue is empty. -/
def probe (syncCode : Nat → UInt8) (jobId : List UInt8) : JobState where
  gateway := { boot none false (fun _ => 0) with
    sensorData := { SensorData.zero with
      syncCode := syncCode
      maxDetector := MAX_DECTECTOR
      deviceActivated := fun _ => 1 }
    dataProcess := [] }
  jobId := jobId
  otaMessageLink := []
  isStartOta := .otaPending

section Shown

variable {commands wanted : List JobCommand} (hWanted : wanted.length ≤ 1)
  (hShown : ∀ syncCode, (run JobCommand.run (probe syncCode []) commands).observed =
    (run JobCommand.run (probe syncCode []) wanted).observed)

include hWanted hShown in
theorem posts_of_shown :
    commands.filterMap JobCommand.post = wanted.filterMap JobCommand.post := by
  have hQueue := congrArg (fun s => s.gateway.dataProcess) (hShown fun _ => 0)
  simp only [JobState.observed, run_dataProcess] at hQueue
  rw [foldl_enqueue _ (Nat.zero_le _), foldl_enqueue _ (Nat.zero_le _)] at hQueue
  have hTake : (commands.filterMap JobCommand.post).take 10 =
      (wanted.filterMap JobCommand.post).take 10 := hQueue
  have hPosts : (wanted.filterMap JobCommand.post).length ≤ 1 :=
    (List.length_filterMap_le _ _).trans hWanted
  have hLength := congrArg List.length hTake
  rw [List.length_take, List.length_take] at hLength
  rwa [List.take_of_length_le (by omega), List.take_of_length_le (by omega)] at hTake

include hShown in
theorem removals_of_shown {node : Int} (hActs : (JobCommand.removeSubDevices node).Acts) :
    .removeSubDevices node ∈ commands ↔ .removeSubDevices node ∈ wanted := by
  obtain ⟨hLow, hHigh⟩ := hActs
  obtain ⟨i, rfl⟩ := Int.eq_ofNat_of_zero_le (Int.le_trans (by decide) hLow)
  have hActivated := congrArg (fun s => s.gateway.sensorData.deviceActivated i)
    (hShown fun _ => 0)
  have hi : 1 ≤ i := Int.ofNat_le.mp hLow
  have hMax : i ≤ MAX_DECTECTOR := Int.ofNat_le.mp hHigh
  simp only [JobState.observed] at hActivated
  rw [run_commands_deviceActivated commands _ hi hMax,
    run_commands_deviceActivated wanted _ hi hMax] at hActivated
  by_cases hCommands : .removeSubDevices (i : Int) ∈ commands
  · by_cases hOther : .removeSubDevices (i : Int) ∈ wanted
    · exact iff_of_true hCommands hOther
    · rw [if_pos hCommands, if_neg hOther] at hActivated
      cases hActivated
  · by_cases hOther : .removeSubDevices (i : Int) ∈ wanted
    · rw [if_neg hCommands, if_pos hOther] at hActivated
      cases hActivated
    · exact iff_of_false hCommands hOther

end Shown

theorem code_eq {code code' : List UInt8} (hCode : code.length ≤ 3) (hCode' : code'.length ≤ 3)
    (h : ∀ (i : Fin 3) x, code.getD i x = code'.getD i x) : code = code' := by
  have : Nontrivial UInt8 := ⟨0, 1, by decide⟩
  refine List.ext_getElem? fun i => ?_
  by_cases hi : i < 3
  · refine eq_of_getD fun x => ?_
    have hByte := h ⟨i, hi⟩ x
    rwa [List.getD_eq_getElem?_getD, List.getD_eq_getElem?_getD] at hByte
  · rw [List.getElem?_eq_none (by omega), List.getElem?_eq_none (by omega)]

/-- Two commands that post the same event are told apart by `sync_code` or by the link. -/
theorem command_eq {c c' : JobCommand} (hFits : c.Fits) (hFits' : c'.Fits)
    (hPost : c.post = c'.post) (hPosts : c.post ≠ none)
    (h : ∀ syncCode, (c.run (probe syncCode [])).observed = (c'.run (probe syncCode [])).observed) :
    c = c' := by
  cases c with
  | removeSubDevices => exact absurd rfl hPosts
  | stopAddSubDevices =>
    cases c' with
    | stopAddSubDevices => rfl
    | addSubDevices | removeSubDevices | updateFw => cases hPost
  | addSubDevices code =>
    cases c' with
    | addSubDevices code' =>
      refine congrArg _ (code_eq hFits hFits' fun i x => ?_)
      have hCode := congrArg (fun s => s.gateway.sensorData.syncCode i) (h fun _ => x)
      simpa [JobCommand.run, JobState.observed, FcomGateway.addSubDevices, probe] using hCode
    | stopAddSubDevices | removeSubDevices | updateFw => cases hPost
  | updateFw link =>
    cases c' with
    | updateFw link' =>
      exact congrArg JobCommand.updateFw (congrArg JobState.otaMessageLink (h fun _ => 0))
    | addSubDevices | stopAddSubDevices | removeSubDevices => cases hPost

theorem post_eq_none {c : JobCommand} : c.post = none ↔ c.IsRemoval := by
  cases c with
  | removeSubDevices => exact iff_of_true rfl trivial
  | addSubDevices | stopAddSubDevices | updateFw => exact iff_of_false nofun not_false

theorem eq_singleton_of_filterMap {α β : Type} {f : α → Option β} {l : List α} {y : β}
    (hSome : ∀ x ∈ l, f x ≠ none) (h : l.filterMap f = [y]) : ∃ x, l = [x] ∧ f x = some y := by
  cases l with
  | nil => cases h
  | cons x rest =>
    obtain ⟨z, hz⟩ := Option.ne_none_iff_exists'.mp (hSome x List.mem_cons_self)
    rw [List.filterMap_cons_some hz, List.cons.injEq, List.filterMap_eq_nil_iff] at h
    cases rest with
    | nil => exact ⟨x, rfl, hz.trans (congrArg some h.1)⟩
    | cons x' rest =>
      have hx' : x' ∈ x' :: rest := List.mem_cons_self
      exact absurd (h.2 x' hx') (hSome x' (List.mem_cons_of_mem x hx'))

theorem repeats_of_shown {commands wanted : List JobCommand} (hWanted : wanted.length ≤ 1)
    (hActs : ∀ c ∈ commands, c.Acts) (hActs' : ∀ c ∈ wanted, c.Acts)
    (hFits : ∀ c ∈ commands, c.Fits) (hFits' : ∀ c ∈ wanted, c.Fits)
    (hShown : ∀ syncCode, (run JobCommand.run (probe syncCode []) commands).observed =
      (run JobCommand.run (probe syncCode []) wanted).observed) : Repeats commands wanted := by
  have hPosts := posts_of_shown hWanted hShown
  have hRemoved : ∀ c, c.IsRemoval → c.Acts → (c ∈ commands ↔ c ∈ wanted) := by
    intro c hRemoval hc
    cases c with
    | removeSubDevices node => exact removals_of_shown hShown hc
    | addSubDevices | stopAddSubDevices | updateFw => exact absurd hRemoval not_false
  have hQuiet : ∀ c ∈ commands, c.post = none → c ∈ wanted := fun c hc hPost =>
    (hRemoved c (post_eq_none.mp hPost) (hActs c hc)).mp hc
  rcases wanted with _ | ⟨w, _ | ⟨_, _⟩⟩
  · refine .inl (List.eq_nil_iff_forall_not_mem.mpr fun c hc => ?_)
    exact List.not_mem_nil (hQuiet c hc (List.filterMap_eq_nil_iff.mp hPosts c hc))
  · cases hPost : w.post with
    | none =>
      -- The payload removes a detector, and so does every command of the parts.
      rw [List.filterMap_cons_none hPost, List.filterMap_nil, List.filterMap_eq_nil_iff] at hPosts
      have hRemoval : w.IsRemoval := post_eq_none.mp hPost
      have hMem : w ∈ commands :=
        (hRemoved w hRemoval (hActs' w List.mem_cons_self)).mpr List.mem_cons_self
      refine .inr ⟨List.ne_nil_of_mem hMem, fun c hc => ?_⟩
      have hc' : c = w := List.mem_singleton.mp (hQuiet c hc (hPosts c hc))
      rw [hc']
      exact ⟨hRemoval, rfl⟩
    | some event =>
      rw [List.filterMap_cons_some hPost, List.filterMap_nil] at hPosts
      have hSome : ∀ c ∈ commands, c.post ≠ none := by
        intro c hc hNone
        have hc' : c = w := List.mem_singleton.mp (hQuiet c hc hNone)
        rw [hc', hPost] at hNone
        cases hNone
      obtain ⟨c, rfl, hEvent⟩ := eq_singleton_of_filterMap hSome hPosts
      have hc := command_eq (hFits c List.mem_cons_self) (hFits' w List.mem_cons_self)
        (hEvent.trans hPost.symm) (hSome c List.mem_cons_self) hShown
      exact .inl (congrArg (fun c => [c]) hc)
  · exact absurd hWanted (by simp)

/-! ## The law -/

theorem acting_acts {jobs : List Job} {c : JobCommand} (hc : c ∈ acting jobs) : c.Acts :=
  of_decide_eq_true (List.mem_filter.mp hc).2

theorem acting_fits {jobs : List Job} {c : JobCommand} (hc : c ∈ acting jobs) : c.Fits := by
  obtain ⟨job, -, hCommand⟩ := List.mem_filterMap.mp (List.mem_filter.mp hc).1
  exact job.fits c hCommand

theorem run_acting (jobs : List Job) {s : JobState}
    (hMax : s.gateway.sensorData.maxDetector ≤ MAX_DECTECTOR) :
    run Job.run s jobs = (run JobCommand.run s (acting jobs)).withJobId
      ((jobs.getLast?.map Job.id).getD s.jobId) := by
  rw [acting, run_filter_acts _ hMax, run_jobList]

theorem observed_withJobId (s : JobState) (id : List UInt8) :
    (s.withJobId id).observed = s.observed.withJobId id := rfl

theorem sameJobs_iff (jobs : List Job) (payload : Option Job) :
    (∀ s : JobState, s.gateway.sensorData.maxDetector ≤ MAX_DECTECTOR →
      (run Job.run s jobs).observed = (run Job.run s payload.toList).observed) ↔
        SameJobs jobs payload := by
  have hLast : payload.toList.getLast? = payload := by cases payload <;> rfl
  constructor
  · intro h
    refine ⟨?_, ?_⟩
    · have : Nontrivial (List UInt8) := ⟨[], [0], by decide⟩
      refine eq_of_getD fun id => ?_
      have hId := congrArg JobState.jobId (h (probe (fun _ => 0) id) (Nat.le_refl _))
      rwa [run_acting jobs (Nat.le_refl _), run_acting payload.toList (Nat.le_refl _), hLast]
        at hId
    · refine repeats_of_shown ?_ (fun c => acting_acts) (fun c => acting_acts)
        (fun c => acting_fits) (fun c => acting_fits) fun syncCode => ?_
      · refine (List.length_filter_le _ _).trans ((List.length_filterMap_le _ _).trans ?_)
        cases payload with
        | none => exact Nat.zero_le _
        | some job => exact Nat.le_refl _
      · have hShown := congrArg (fun s : JobState => s.withJobId [])
          (h (probe syncCode []) (Nat.le_refl _))
        rw [run_acting jobs (Nat.le_refl _), run_acting payload.toList (Nat.le_refl _)] at hShown
        rw [← withJobId_self (run_commands_jobId (acting jobs) (probe syncCode [])),
          ← withJobId_self (run_commands_jobId (acting payload.toList) (probe syncCode []))]
        exact hShown
  · rintro ⟨hId, hCommands⟩ s hMax
    rw [run_acting jobs hMax, run_acting payload.toList hMax, hLast, hId, observed_withJobId,
      observed_withJobId, hCommands.observed s]

/-! ## What the first part decides -/

theorem mapM_readJob_of_none {parts : List (List UInt8)}
    (hNone : ∀ part ∈ parts, readJob part = some none) :
    parts.mapM readJob = some (List.replicate parts.length none) := by
  induction parts with
  | nil => rfl
  | cons part rest ih =>
    rw [List.mapM_cons, hNone part List.mem_cons_self,
      ih fun part' hPart => hNone part' (List.mem_cons_of_mem part hPart)]
    rfl

/-- A job that is whole in its first part is safe when the others are no jobs. -/
theorem splitSafe_of_first {first : List UInt8} {rest : List (List UInt8)}
    (hFirst : readJob first ≠ some none) (hRest : ∀ part ∈ rest, readJob part = some none)
    (hShort : (first :: rest).flatten.length < 2 ^ 16) : SplitSafe (first :: rest) := by
  rw [List.flatten_cons] at hShort
  rw [SplitSafe, List.flatten_cons, readJob_append hFirst rest.flatten hShort, List.mapM_cons,
    mapM_readJob_of_none hRest]
  cases hJob : readJob first with
  | none => trivial
  | some job =>
    cases job with
    | none => exact absurd hJob hFirst
    | some job =>
      have hJobs : (some job :: List.replicate rest.length none).reduceOption = [job] := by
        rw [List.reduceOption_cons_of_some, List.reduceOption_replicate_none]
      exact (congrArg (fun jobs => SameJobs jobs (some job)) hJobs).mpr ⟨rfl, .inl rfl⟩

/-- A job that is cut so that no part is one is lost. -/
theorem not_splitSafe_of_none {parts : List (List UInt8)}
    (hNone : ∀ part ∈ parts, readJob part = some none) (hJob : readJob parts.flatten ≠ some none) :
    ¬ SplitSafe parts := by
  rw [SplitSafe, mapM_readJob_of_none hNone]
  cases hPayload : readJob parts.flatten with
  | none => exact not_false
  | some payload =>
    cases payload with
    | none => exact absurd hPayload hJob
    | some job =>
      intro h
      have hId : (List.replicate parts.length none).reduceOption.getLast?.map Job.id =
          some job.id := h.id
      rw [List.reduceOption_replicate_none] at hId
      cases hId

/-- A payload that arrives in several events has its own effect exactly when its parts, read on
their own, ask for the same. -/
theorem deliveryLaw_iff (parts : List (List UInt8)) : DeliveryLaw parts ↔ SplitSafe parts := by
  unfold DeliveryLaw SplitSafe deliverPublish
  simp only [foldlM_dataEvents, foldlM_jsonParserGwJob, jsonParserGwJob_eq, Option.map_map]
  cases parts.mapM readJob with
  | none =>
    cases readJob parts.flatten with
    | none => exact iff_of_true (fun _ _ => rfl) trivial
    | some payload =>
      refine iff_of_false (fun h => ?_) not_false
      cases h (probe (fun _ => 0) []) (Nat.le_refl _)
  | some jobs =>
    cases readJob parts.flatten with
    | none =>
      refine iff_of_false (fun h => ?_) not_false
      cases h (probe (fun _ => 0) []) (Nat.le_refl _)
    | some payload =>
      refine Iff.trans ?_ (sameJobs_iff jobs.reduceOption payload)
      exact forall_congr' fun s => imp_congr_right fun _ => Option.some_inj

/-- A job of 1105 bytes for a client id of 32 characters: 64 of the 1024 bytes of the buffer go to
the header and the topic, and the rest of the payload comes in a second event. -/
def longJob : List (List UInt8) :=
  [literal "\x7b\"request_id\":\"1\",\"note\":\"" ++ List.replicate 934 0x61,
    List.replicate 100 0x61 ++
      literal "\",\"commands\":[\x7b\"stop_add_sub_devices\":true\x7d]\x7d"]

/-- Neither part is a job. -/
theorem longJob_lost : ¬ ∀ parts, DeliveryLaw parts := by
  intro h
  have hId := congrArg (Option.map JobState.jobId)
    (h longJob (probe (fun _ => 0) []) (Nat.le_refl _))
  revert hId
  decide +kernel

end FcomGateway
