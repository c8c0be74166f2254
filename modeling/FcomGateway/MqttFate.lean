import FcomGateway.MqttSteps
import FcomGateway.Library.Ledger
import Mathlib.Data.List.Perm.Basic

/-! # What becomes of a message

Two laws of every run of the client. No item of the outbox is lost or left twice, so that an
acknowledgement is refused only where no item waits for it; and the flag of a duplicate tells
whether all of the message went out before.
-/

namespace FcomGateway.Mqtt

open Ledger

/-- A run; it ends where a publishing call copies from before its payload. -/
def MqttClient.run (c : MqttClient) : List ClientAction → Option MqttClient
  | [] => some c
  | a :: rest => (c.step a).bind fun c => c.run rest

/-- The identifiers that a run draws are not those of items at the time. -/
def MqttClient.RunUnused (c : MqttClient) : List ClientAction → Prop
  | [] => True
  | a :: rest => a.Unused c.store ∧ ∀ c', c.step a = some c' → c'.RunUnused rest

variable {fresh : Prop} {drawn : Option Nat} {ack : Option (MessageType × Nat)} {s s' : Store}

theorem Acts.preserves {I : Store → Prop} (hIntake : ∀ {s s'}, Intake fresh drawn s s' → I s → I s')
    (hMove : ∀ {s s'}, Move fresh ack s s' → I s → I s') (h : Acts fresh drawn ack s s')
    (hs : I s) : I s' := by
  obtain ⟨s₁, hFirst, hMoves⟩ := h
  have hs₁ := hIntake hFirst hs
  clear hFirst
  induction hMoves with
  | refl => exact hs₁
  | tail _ hStep ih => exact hMove hStep ih

theorem run_preserves {I : Store → Prop}
    (hIntake : ∀ {drawn s s'}, Intake fresh drawn s s' → I s → I s')
    (hMove : ∀ {ack s s'}, Move fresh ack s s' → I s → I s') (actions : List ClientAction)
    {c c' : MqttClient} (hWf : c.store.Wellformed fresh)
    (hUnused : fresh → c.RunUnused actions) (hI : I c.store) (h : c.run actions = some c') :
    c'.store.Wellformed fresh ∧ I c'.store := by
  induction actions generalizing c with
  | nil =>
    cases h
    exact ⟨hWf, hI⟩
  | cons a rest ih =>
    obtain ⟨c₁, hStep, hRest⟩ := Option.bind_eq_some_iff.mp h
    have hActs := step_acts hWf a (fun hFresh => (hUnused hFresh).1) hStep
    exact ih (hActs.preserves Intake.wellformed Move.wellformed hWf)
      (fun hFresh => (hUnused hFresh).2 c₁ hStep) (hActs.preserves hIntake hMove hI) hRest

theorem initial_wellformed (bufferLength now : Nat) :
    (MqttClient.initial bufferLength now).store.Wellformed fresh where
  handles := List.nodup_nil
  bound := nofun
  ids := fun _ => .nil
  named := fun _ => nofun

/-! ## Every item is in one place -/

/-- The items that were accepted, in the places where they are or how they left. -/
def Store.places (s : Store) : List Nat :=
  s.outbox.map OutboxItem.handle ++ (s.acknowledged ++ (s.expired ++ (s.handed ++ s.cleared)))

structure Store.Balanced (s : Store) : Prop where
  places : s.places.Perm (List.range s.nextHandle)
  counted : s.outbox.length ≤ s.pendingMsgCount

theorem Intake.balanced (h : Intake fresh drawn s s') (hs : s.Balanced) : s'.Balanced := by
  cases h with
  | none => exact hs
  | accept item memory hHandle =>
    have hCounted := hs.counted
    rw [Store.accept]
    split
    · refine ⟨?_, ?_⟩
      · rw [List.range_succ]
        have hLast : ((s.outbox ++ [item]).map OutboxItem.handle ++
            (s.acknowledged ++ (s.expired ++ (s.handed ++ s.cleared)))).Perm
              (s.places ++ [s.nextHandle]) := by
          rw [List.map_append, List.map_singleton, hHandle, Store.places, List.append_assoc,
            List.append_assoc]
          exact List.Perm.append_left _ List.perm_append_comm
        exact hLast.trans (hs.places.append_right _)
      · change (s.outbox ++ [item]).length ≤ s.pendingMsgCount + 1
        rw [List.length_append, List.length_singleton]
        omega
    · exact ⟨hs.places, hCounted.trans (Nat.le_succ _)⟩

theorem Store.count_places (s : Store) (handle : Nat) : s.places.count handle =
    (s.outbox.map OutboxItem.handle).count handle + (s.acknowledged.count handle +
      (s.expired.count handle + (s.handed.count handle + s.cleared.count handle))) := by
  rw [Store.places, List.count_append, List.count_append, List.count_append, List.count_append]

theorem Store.Balanced.of_count (hs : s.Balanced) (hNext : s'.nextHandle = s.nextHandle)
    (hPlaces : ∀ handle, s'.places.count handle = s.places.count handle)
    (hCounted : s'.outbox.length ≤ s'.pendingMsgCount) : s'.Balanced := by
  refine ⟨?_, hCounted⟩
  rw [hNext]
  exact (List.perm_iff_count.mpr hPlaces).trans hs.places

theorem Move.balanced (h : Move fresh ack s s') (hs : s.Balanced) : s'.Balanced := by
  have hCounted := hs.counted
  cases h with
  | touch w outbox hTouches _ =>
    refine hs.of_count rfl (fun handle => ?_) (hTouches.length_eq ▸ hCounted)
    rw [Store.count_places, Store.count_places,
      touches_map OutboxItem.handle (fun a b hab => hab.handle) hTouches]
  | acknowledge msgType msgId _ _ h =>
    obtain ⟨hPending, before, item, after, hOutbox, -, -, rfl⟩ := acknowledge_cases h
    refine hs.of_count rfl (fun handle => ?_) ?_
    · rw [Store.count_places, Store.count_places, hOutbox]
      simp only [List.map_append, List.map_cons, List.count_append, List.count_cons,
        List.count_nil]
      omega
    · rw [hOutbox, List.length_append, List.length_cons] at hCounted
      change (before ++ after).length ≤ s.pendingMsgCount - 1
      rw [List.length_append]
      omega
  | deleteExpired now =>
    let expired := fun item => decide (OutboxItem.Expired now OUTBOX_EXPIRED_TIMEOUT_MS item)
    have hSplit := List.filter_append_perm expired s.outbox
    have hLeft : (s.deleteExpired now).outbox = s.outbox.filter fun item => ! expired item :=
      List.filter_congr fun item _ => decide_not
    refine hs.of_count rfl (fun handle => ?_) ?_
    · have hCount := (hSplit.map OutboxItem.handle).count_eq handle
      rw [List.map_append, List.count_append] at hCount
      rw [Store.count_places, Store.count_places, hLeft]
      change _ + (_ + ((s.expired ++ (s.outbox.filter expired).map OutboxItem.handle).count handle +
        _)) = _
      rw [List.count_append, ← hCount]
      change _ + (s.acknowledged.count handle + (_ + (s.handed.count handle +
        s.cleared.count handle))) = _
      omega
    · have hLength := hSplit.length_eq
      rw [List.length_append] at hLength
      change (s.deleteExpired now).outbox.length ≤
        s.pendingMsgCount - (s.outbox.filter expired).length
      rw [hLeft]
      omega
  | hand item =>
    rcases hand_cases s item with hSame | ⟨before, found, after, hOutbox, -, hEq⟩
    · rwa [hSame]
    · rw [hEq]
      refine hs.of_count rfl (fun handle => ?_) ?_
      · rw [Store.count_places, Store.count_places, hOutbox]
        simp only [List.map_append, List.map_cons, List.count_append, List.count_cons,
          List.count_nil]
        omega
      · rw [hOutbox, List.length_append, List.length_cons] at hCounted
        change (before ++ after).length ≤ s.pendingMsgCount
        rw [List.length_append]
        omega
  | clear =>
    refine hs.of_count rfl (fun handle => ?_) (Nat.zero_le _)
    rw [Store.count_places, Store.count_places, Store.clear]
    dsimp only
    rw [List.count_append, List.map_nil, List.count_nil]
    omega

/-- Every item that was ever accepted is in one place, and an acknowledgement is taken exactly
where an item waits for it. -/
theorem run_balanced (bufferLength now : Nat) (actions : List ClientAction) {c : MqttClient}
    (h : (MqttClient.initial bufferLength now).run actions = some c) :
    c.store.places.Perm (List.range c.store.nextHandle) ∧
      ∀ msgType msgId, (c.isValidMqttMsg msgType msgId).1 = true ↔
        ∃ item ∈ c.store.outbox, item.msgId = msgId ∧ item.msgType = some msgType := by
  have hStart : (MqttClient.initial bufferLength now).store.Balanced := ⟨.nil, le_rfl⟩
  have hRun : c.store.Wellformed False ∧ c.store.Balanced :=
    run_preserves Intake.balanced Move.balanced actions (initial_wellformed bufferLength now) nofun
      hStart h
  have hBalanced := hRun.2
  refine ⟨hBalanced.places, fun msgType msgId => ?_⟩
  rw [MqttClient.isValidMqttMsg]
  constructor
  · intro hValid
    cases hAcknowledge : c.store.acknowledge msgType msgId with
    | none =>
      rw [hAcknowledge] at hValid
      cases hValid
    | some s =>
      obtain ⟨-, before, item, after, hOutbox, hId, hType, -⟩ := acknowledge_cases hAcknowledge
      rw [hOutbox]
      exact ⟨item, List.mem_append_right _ List.mem_cons_self, hId, hType⟩
  · rintro ⟨item, hItem, hId, hType⟩
    have hSome := List.length_pos_of_mem hItem
    have hCounted := hBalanced.counted
    have hPending : c.store.pendingMsgCount ≠ 0 := by omega
    rw [Store.acknowledge, if_neg hPending]
    cases hDelete : outboxDelete c.store.outbox msgId msgType with
    | none => exact absurd (decide_eq_true ⟨hId, hType⟩) (takeFirst_none hDelete item hItem)
    | some deleted => rfl

/-! ## The flag of a duplicate -/

/-- The flag is set in what is written for an item that matters exactly if all of the item has gone
out before. -/
def Write.Flagged (before : List Write) (w : Write) : Prop :=
  ∀ item, w.item = some item → item.Important → w.bytes ≠ [] →
    (getDup w.bytes = 1 ↔ ∃ w' ∈ before, w'.Completes item.handle)

structure Store.Marked (s : Store) : Prop where
  queued : ∀ item ∈ s.outbox, item.Important → item.pending = .queued →
    getDup item.data = 0 ∧ ∀ w ∈ s.writes, ¬ w.Completes item.handle
  transmitted : ∀ item ∈ s.outbox, item.Important → item.pending = .transmitted →
    ∃ w ∈ s.writes, w.Completes item.handle
  bound : ∀ w ∈ s.writes, ∀ item, w.item = some item → item.handle < s.nextHandle
  flagged : Justified Write.Flagged s.writes

theorem Intake.marked (h : Intake True drawn s s') (hs : s.Marked) : s'.Marked := by
  cases h with
  | none => exact hs
  | accept item memory hHandle _ hNew =>
    have hBound : ∀ w ∈ s.writes, ∀ item, w.item = some item → item.handle < s.nextHandle + 1 :=
      fun w hw item hItem => (hs.bound w hw item hItem).trans (Nat.lt_succ_self _)
    rw [Store.accept]
    split
    · refine ⟨?_, ?_, hBound, hs.flagged⟩
      · intro other hOther hImportant hPending
        rcases List.mem_append.mp hOther with hOld | hLast
        · exact hs.queued other hOld hImportant hPending
        · have hEq := List.mem_singleton.mp hLast
          subst hEq
          refine ⟨(hNew trivial).data hImportant, ?_⟩
          rintro w hw ⟨-, item', hItem', hSame⟩
          have hLess := hs.bound w hw item' hItem'
          omega
      · intro other hOther hImportant hPending
        rcases List.mem_append.mp hOther with hOld | hLast
        · exact hs.transmitted other hOld hImportant hPending
        · rw [List.mem_singleton.mp hLast, (hNew trivial).pending] at hPending
          cases hPending
    · exact ⟨hs.queued, hs.transmitted, hs.bound, hs.flagged⟩

theorem Store.Marked.of_subset (hs : s.Marked) (hOutbox : s'.outbox ⊆ s.outbox)
    (hWrites : s'.writes = s.writes) (hNext : s'.nextHandle = s.nextHandle) : s'.Marked := by
  refine ⟨?_, ?_, ?_, ?_⟩
  · intro item hItem hImportant hPending
    rw [hWrites]
    exact hs.queued item (hOutbox hItem) hImportant hPending
  · intro item hItem hImportant hPending
    rw [hWrites]
    exact hs.transmitted item (hOutbox hItem) hImportant hPending
  · rw [hWrites, hNext]
    exact hs.bound
  · rw [hWrites]
    exact hs.flagged

theorem Move.marked (hWf : s.Wellformed True) (h : Move True ack s s') (hs : s.Marked) :
    s'.Marked := by
  cases h with
  | touch w outbox hTouches hWrite =>
    have hNew : ∀ w' ∈ w.toList, w' ∈ w := fun w' hw' => Option.mem_toList.mp hw'
    refine ⟨?_, ?_, ?_, ?_⟩
    · intro item hItem hImportant hPending
      obtain ⟨old, hOld, hTouch⟩ := touches_back hTouches hItem
      have hOldImportant := hTouch.same.important.mp hImportant
      obtain ⟨hOldPending, hData, hNot⟩ := hTouch.queued trivial hOldImportant hPending
      obtain ⟨hDup, hNever⟩ := hs.queued old hOld hOldImportant hOldPending
      rw [hTouch.same.handle, hData]
      refine ⟨hDup, fun w' hw' => ?_⟩
      rcases List.mem_append.mp hw' with hBefore | hLast
      · exact hNever w' hBefore
      · exact hNot w' (hNew w' hLast)
    · intro item hItem hImportant hPending
      obtain ⟨old, hOld, hTouch⟩ := touches_back hTouches hItem
      have hOldImportant := hTouch.same.important.mp hImportant
      rw [hTouch.same.handle]
      rcases hTouch.transmitted trivial hOldImportant hPending with hOldPending | ⟨w', hw', hSent⟩
      · obtain ⟨w', hw', hSent⟩ := hs.transmitted old hOld hOldImportant hOldPending
        exact ⟨w', List.mem_append_left _ hw', hSent⟩
      · exact ⟨w', List.mem_append_right _ (Option.mem_toList.mpr hw'), hSent⟩
    · intro w' hw' item hItem
      rcases List.mem_append.mp hw' with hBefore | hLast
      · exact hs.bound w' hBefore item hItem
      · obtain ⟨item₀, hItem₀, hSame, -⟩ := hWrite w' (hNew w' hLast) item hItem
        rw [hSame.handle]
        exact hWf.bound item₀ hItem₀
    · cases w with
      | none =>
        rw [Option.toList_none, List.append_nil]
        exact hs.flagged
      | some w =>
        refine justified_concat_iff.mpr ⟨hs.flagged, fun item hItem hImportant hSome => ?_⟩
        obtain ⟨item₀, hItem₀, hSame, hFor⟩ := hWrite w rfl item hItem
        have hImportant₀ := hSame.important.mp hImportant
        rw [hSame.handle]
        rcases hFor trivial hImportant₀ hSome with ⟨hQueued, hDup⟩ | ⟨hTransmitted, hDup⟩
        · obtain ⟨hZero, hNever⟩ := hs.queued item₀ hItem₀ hImportant₀ hQueued
          rw [hDup, hZero]
          refine iff_of_false Nat.zero_ne_one ?_
          rintro ⟨w', hw', hSent⟩
          exact hNever w' hw' hSent
        · exact iff_of_true hDup (hs.transmitted item₀ hItem₀ hImportant₀ hTransmitted)
  | acknowledge msgType msgId _ _ h =>
    obtain ⟨-, before, item, after, hOutbox, -, -, rfl⟩ := acknowledge_cases h
    refine hs.of_subset ?_ rfl rfl
    rw [hOutbox]
    exact ((List.sublist_cons_self _ _).append_left before).subset
  | deleteExpired now => exact hs.of_subset (List.filter_subset_self _) rfl rfl
  | hand item =>
    rcases hand_cases s item with hSame | ⟨before, found, after, hOutbox, -, hEq⟩
    · rwa [hSame]
    · rw [hEq]
      refine hs.of_subset ?_ rfl rfl
      rw [hOutbox]
      exact ((List.sublist_cons_self _ _).append_left before).subset
  | clear => exact hs.of_subset (List.nil_subset _) rfl rfl

theorem initial_marked (bufferLength now : Nat) :
    (MqttClient.initial bufferLength now).store.Marked :=
  ⟨nofun, nofun, nofun, justified_nil _⟩

/-- In every run in which identifiers are new when they are drawn, the flag of a duplicate is set
exactly in what had gone out in whole before. -/
theorem run_flagged (bufferLength now : Nat) (actions : List ClientAction) {c : MqttClient}
    (hUnused : (MqttClient.initial bufferLength now).RunUnused actions)
    (h : (MqttClient.initial bufferLength now).run actions = some c) :
    Justified Write.Flagged c.store.writes := by
  have hRun : c.store.Wellformed True ∧ c.store.Wellformed True ∧ c.store.Marked :=
    run_preserves (I := fun s => s.Wellformed True ∧ s.Marked)
      (fun hIntake hs => ⟨hIntake.wellformed hs.1, hIntake.marked hs.2⟩)
      (fun hMove hs => ⟨hMove.wellformed hs.1, hMove.marked hs.1 hs.2⟩) actions
      (initial_wellformed bufferLength now) (fun _ => hUnused)
      ⟨initial_wellformed bufferLength now, initial_marked bufferLength now⟩ h
  exact hRun.2.2.flagged

/-! A message that is published before the connection and sent again without an answer. -/

def sampleRound (now : Nat) (resend : List Int) : MqttClient.Round where
  disconnect := false
  incoming := .nothing
  random := ⟨1, by decide, by decide⟩
  answer := []
  resend := resend
  ping := []
  ticks := ⟨now, now, now, now, now, now, now, le_rfl, le_rfl, le_rfl, le_rfl, le_rfl, le_rfl⟩

def samplePublish : MqttClient.PublishArgs where
  topic := [0x74]
  data := [0x31]
  qos := 1
  retain := 0
  random := sampleId
  memory := true
  now := 0

def sampleRun : List ClientAction :=
  [.publish samplePublish [] 0, .start, .connect (some ⟨⟨[], 0, 0⟩, 1024⟩) 10,
    .round (sampleRound 20 [8]), .round (sampleRound 5000 [3, 5])]

theorem sampleRun_flagged : ∃ c, (MqttClient.initial 1024 0).run sampleRun = some c ∧
    c.store.writes.map (fun w => getDup w.bytes) = [0, 1] ∧
    Justified Write.Flagged c.store.writes := by
  have hRun : ((MqttClient.initial 1024 0).run sampleRun).map
      (fun c => c.store.writes.map fun w => getDup w.bytes) = some [0, 1] := by decide +kernel
  have hUnused : (MqttClient.initial 1024 0).RunUnused sampleRun :=
    ⟨fun _ _ => nofun, fun _ _ => ⟨nofun, fun _ _ => ⟨nofun, fun _ _ => ⟨nofun, fun _ _ =>
      ⟨nofun, fun _ _ => trivial⟩⟩⟩⟩⟩
  obtain ⟨c, hSome, hWrites⟩ := Option.map_eq_some_iff.mp hRun
  exact ⟨c, hSome, hWrites, run_flagged 1024 0 sampleRun hUnused hSome⟩

theorem sampleRun_balanced : ∃ c, (MqttClient.initial 1024 0).run sampleRun = some c ∧
    c.store.nextHandle = 1 ∧ c.store.places.Perm (List.range c.store.nextHandle) ∧
      ∀ msgType msgId, (c.isValidMqttMsg msgType msgId).1 = true ↔
        ∃ item ∈ c.store.outbox, item.msgId = msgId ∧ item.msgType = some msgType := by
  have hRun : ((MqttClient.initial 1024 0).run sampleRun).map (fun c => c.store.nextHandle) =
      some 1 := by decide +kernel
  obtain ⟨c, hSome, hNext⟩ := Option.map_eq_some_iff.mp hRun
  exact ⟨c, hSome, hNext, run_balanced 1024 0 sampleRun hSome⟩

end FcomGateway.Mqtt
