import FcomGateway.MqttPublish

/-! # The outbox of the MQTT client

`mqtt_outbox.c`. Messages wait here for the identifier that acknowledges them. The functions look
for an identifier and take the first item that has it.
-/

namespace FcomGateway.Mqtt

inductive Pending
  | queued
  | transmitted
  | acknowledged
  | confirmed
  deriving DecidableEq, Repr

/-- `outbox_item_t`; `handle` is what tells two items apart, the address in the source. -/
structure OutboxItem where
  handle : Nat
  data : List UInt8
  msgId : Nat
  msgType : Option MessageType
  msgQos : Nat
  tick : Nat
  pending : Pending
  deriving DecidableEq, Repr

abbrev Outbox := List OutboxItem

def updateFirst {α : Type} (p : α → Bool) (f : α → α) : List α → List α
  | [] => []
  | a :: rest => if p a then f a :: rest else a :: updateFirst p f rest

def takeFirst {α : Type} (p : α → Bool) : List α → Option (α × List α)
  | [] => none
  | a :: rest =>
    if p a then some (a, rest) else (takeFirst p rest).map fun found => (found.1, a :: found.2)

def outboxDequeue (outbox : Outbox) (pending : Pending) : Option OutboxItem :=
  outbox.find? fun item => item.pending = pending

/-- The item that is deleted, and the outbox without it. -/
def outboxDelete (outbox : Outbox) (msgId : Nat) (msgType : MessageType) :
    Option (OutboxItem × Outbox) :=
  takeFirst (fun item => item.msgId = msgId ∧ item.msgType = some msgType) outbox

def outboxDeleteItem (outbox : Outbox) (item : OutboxItem) : Option (OutboxItem × Outbox) :=
  takeFirst (fun other => other.handle = item.handle) outbox

def outboxSetPending (outbox : Outbox) (msgId : Nat) (pending : Pending) : Outbox :=
  updateFirst (fun item => item.msgId = msgId) (fun item => { item with pending := pending }) outbox

def outboxSetTick (outbox : Outbox) (msgId tick : Nat) : Outbox :=
  updateFirst (fun item => item.msgId = msgId) (fun item => { item with tick := tick }) outbox

def OutboxItem.Expired (currentTick timeout : Nat) (item : OutboxItem) : Prop :=
  item.tick + timeout < currentTick

instance (currentTick timeout : Nat) : DecidablePred (OutboxItem.Expired currentTick timeout) :=
  fun _ => inferInstanceAs (Decidable (_ < _))

def outboxDeleteExpired (outbox : Outbox) (currentTick timeout : Nat) : Outbox :=
  outbox.filter fun item => ¬ item.Expired currentTick timeout

/-! ## Items keep their places -/

section UpdateFirst

variable {α : Type} {p : α → Bool} {f : α → α}

theorem updateFirst_append {before : List α} (hBefore : ∀ b ∈ before, ¬ p b) {a : α} (ha : p a)
    (after : List α) : updateFirst p f (before ++ a :: after) = before ++ f a :: after := by
  induction before with
  | nil => rw [List.nil_append, updateFirst, if_pos ha, List.nil_append]
  | cons b before ih =>
    obtain ⟨hb, hRest⟩ := List.forall_mem_cons.mp hBefore
    rw [List.cons_append, updateFirst, if_neg hb, ih hRest, List.cons_append]

theorem updateFirst_updateFirst {g : α → α} (h : ∀ a, p (g a) = p a) (l : List α) :
    updateFirst p f (updateFirst p g l) = updateFirst p (f ∘ g) l := by
  induction l with
  | nil => rfl
  | cons a rest ih =>
    by_cases hp : p a
    · rw [updateFirst, updateFirst, if_pos hp, if_pos hp, updateFirst, if_pos (by rwa [h])]
      rfl
    · rw [updateFirst, updateFirst, if_neg hp, if_neg hp, updateFirst, if_neg hp, ih]

theorem takeFirst_some {l rest : List α} {a : α} (h : takeFirst p l = some (a, rest)) :
    ∃ before after, l = before ++ a :: after ∧ rest = before ++ after ∧ p a ∧
      ∀ b ∈ before, ¬ p b := by
  induction l generalizing rest with
  | nil => cases h
  | cons b l ih =>
    rw [takeFirst] at h
    split at h
    · cases h
      exact ⟨[], l, rfl, rfl, ‹_›, nofun⟩
    · obtain ⟨found, hFound, hEq⟩ := Option.map_eq_some_iff.mp h
      obtain ⟨a', rest'⟩ := found
      cases hEq
      obtain ⟨before, after, rfl, rfl, hp, hBefore⟩ := ih hFound
      exact ⟨b :: before, after, rfl, rfl, hp, List.forall_mem_cons.mpr ⟨‹_›, hBefore⟩⟩

theorem takeFirst_none {l : List α} (h : takeFirst p l = none) : ∀ a ∈ l, ¬ p a := by
  induction l with
  | nil => nofun
  | cons b l ih =>
    rw [takeFirst] at h
    split at h
    · cases h
    · exact List.forall_mem_cons.mpr ⟨‹_›, ih (Option.map_eq_none_iff.mp h)⟩

end UpdateFirst

end FcomGateway.Mqtt
