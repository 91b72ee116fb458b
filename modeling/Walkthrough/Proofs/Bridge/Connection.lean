import Walkthrough.Proofs.Bridge.Correlation

/-!
Requests on a connection. What a connection reads is the bytes that were left unread and, behind
them, those that arrive with each request; the requests that are made in turn on it are a
conversation over all of them.
-/
namespace Walkthrough.Bridge

theorem Passes.append {id n : Nat} {bytes left : List UInt8} (passes : Passes id n bytes left)
    (more : List UInt8) : Passes id n (bytes ++ more) (left ++ more) := by
  induction passes with
  | none => exact .none
  | late whole late _ ih =>
    rw [List.append_assoc]
    exact .late whole late ih

theorem Leaves.append {id : Nat} {d : Departure} {bytes left : List UInt8}
    (leaves : Leaves id d bytes left) (more : List UInt8) :
    Leaves id d (bytes ++ more) (left ++ more) := by
  obtain ⟨n, begun, passes, bounds⟩ := leaves
  exact ⟨n, begun, by rw [← List.append_assoc]; exact passes.append more, bounds⟩

namespace Connection

variable {β : Type} {p : Peer β} {c : Connection β}

theorem send_nextId (o : Operation) : (c.send p o).nextId = c.nextId + 1 := by
  unfold send
  split <;> rfl

theorem exchange_eq (o : Operation) (connected : c.peer.isSome = true) :
    c.exchange p o =
      let asked := c.send p o
      let received := receive asked.peer.isSome c.nextId o.name (linesOf asked.unread)
      (received.1, { asked with unread := received.2.flatten }) := by
  rw [exchange, if_pos connected]

/-- Requests that are made in turn on a connection, with the bytes that arrive meanwhile. Each is
written while the other end is there, and no one waits for a reply that does not come. -/
inductive Runs (p : Peer β) : Connection β → List Exchange → List UInt8 →
    List (Option (Except PageFault Json)) → Prop
  | done {c : Connection β} : Runs p c [] [] []
  | waited {c after : Connection β} {o : Operation} {result : Except PageFault Json}
      {bytes arrived : List UInt8} {rest : List Exchange}
      {outcomes : List (Option (Except PageFault Json))} (connected : c.peer.isSome = true)
      (arrive : (c.send p o).unread = c.unread ++ bytes) (ask : c.exchange p o = (result, after))
      (heard : isSilent after.peer.isSome result = false) (others : Runs p after rest arrived outcomes) :
      Runs p c (⟨o.name, none⟩ :: rest) (bytes ++ arrived) (some result :: outcomes)
  | abandoned {c : Connection β} {o : Operation} {d : Departure} {left bytes arrived : List UInt8}
      {rest : List Exchange} {outcomes : List (Option (Except PageFault Json))}
      (connected : c.peer.isSome = true) (arrive : (c.send p o).unread = c.unread ++ bytes)
      (leaves : Leaves c.nextId d (c.unread ++ bytes) left)
      (others : Runs p { c.send p o with unread := left } rest arrived outcomes) :
      Runs p c (⟨o.name, some d⟩ :: rest) (bytes ++ arrived) (none :: outcomes)

theorem Runs.disconnected {calls : List Exchange} {arrived : List UInt8}
    {outcomes : List (Option (Except PageFault Json))} (runs : Runs p c calls arrived outcomes)
    (gone : c.peer = none) : arrived = [] := by
  cases runs with
  | done => rfl
  | waited connected => simp [gone] at connected
  | abandoned connected => simp [gone] at connected

theorem Runs.conversation {calls : List Exchange} {arrived : List UInt8}
    {outcomes : List (Option (Except PageFault Json))} (runs : Runs p c calls arrived outcomes) :
    Conversation c.nextId calls (c.unread ++ arrived) outcomes := by
  induction runs with
  | done => exact .nil
  | @waited c after o result bytes arrived rest outcomes connected arrive ask heard others ih =>
    rw [exchange_eq o connected] at ask
    obtain ⟨rfl, rfl⟩ := Prod.mk.inj ask
    have last : (c.send p o).peer.isSome = false → arrived = [] := fun gone =>
      others.disconnected (by simpa using gone)
    have takes := @receive_takes _ c.nextId ⟨o.name, none⟩ rfl _
      (areLines_linesOf (c.send p o).unread) arrived last heard
    have whole : (c.send p o).unread ++ arrived = c.unread ++ (bytes ++ arrived) := by
      rw [arrive, List.append_assoc]
    rw [flatten_linesOf, whole] at takes
    rw [send_nextId] at ih
    exact .cons takes ih
  | @abandoned c o d left bytes arrived rest outcomes connected arrive leaves others ih =>
    rw [send_nextId] at ih
    rw [← List.append_assoc]
    exact .cons (.abandoned rfl (leaves.append arrived)) ih

end Connection

namespace Sample

def clicks : List Exchange := [⟨"textContent", none⟩, ⟨"click", some {}⟩, ⟨"textContent", none⟩]

def faultOf? (outcomes : List (Option (Except PageFault Json))) (k : Nat) : Option PageFault :=
  match outcomes[k]? with
  | some (some (.error fault)) => some fault
  | _ => none

end Sample

end Walkthrough.Bridge
