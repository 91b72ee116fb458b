import Walkthrough.Proofs.Bridge.Connection
import Walkthrough.Proofs.Bridge.Request
import Walkthrough.Proofs.Play.Laws

/-!
Numbers of requests. Every operation takes the next number, whether or not it is answered, and one
that is not written is followed by none that is. So the requests written on a connection are the
first operations on it, numbered from 1 on.
-/
namespace Walkthrough.Bridge

variable {β : Type}

structure Numbered (ops : List Operation) (c : Connection β) : Prop where
  few : c.sent.length ≤ ops.length
  sent : c.sent = (ops.take c.sent.length).mapIdx fun k o => o.line (k + 1)
  /-- While the other end is there, all of them are written. -/
  open_ : c.peer.isSome = true → c.sent.length = ops.length ∧ c.nextId = ops.length + 1

namespace Numbered

variable {ops : List Operation} {c d : Connection β} {p : Peer β} {silence : Nat}

theorem of_same (numbered : Numbered ops c) (sent : d.sent = c.sent) (number : d.nextId = c.nextId)
    (left : d.peer.isSome = true → c.peer.isSome = true) : Numbered ops d := by
  obtain ⟨few, written, open_⟩ := numbered
  rw [← sent] at few written open_
  exact ⟨few, written, fun there => number ▸ open_ (left there)⟩

theorem send (numbered : Numbered ops c) (o : Operation) : Numbered (ops ++ [o]) (c.send p o) := by
  obtain ⟨few, written, open_⟩ := numbered
  unfold Connection.send
  cases there : c.peer with
  | none =>
    refine ⟨?_, ?_, nofun⟩
    · rw [List.length_append]
      exact Nat.le_add_right_of_le few
    · rw [List.take_append_of_le_length few]
      exact written
  | some state =>
    obtain ⟨all, number⟩ := open_ (there ▸ rfl)
    have next : (c.sent ++ [o.line c.nextId]).length = (ops ++ [o]).length := by
      simp only [List.length_append, List.length_singleton, all]
    refine ⟨Nat.le_of_eq next, ?_, fun _ => ⟨next, ?_⟩⟩
    · rw [all, List.take_length] at written
      dsimp only
      rw [next, List.take_length, List.mapIdx_concat, ← written, number]
    · dsimp only
      rw [number, List.length_append, List.length_singleton]

theorem exchange (numbered : Numbered ops c) (o : Operation) :
    Numbered (ops ++ [o]) (c.exchange p o).2 := by
  have sent := numbered.send (p := p) o
  unfold Connection.exchange
  split
  · exact sent.of_same rfl rfl id
  · exact sent

variable (p silence)

theorem serve (numbered : Numbered ops c) (call : Call) :
    Numbered (ops ++ [.ofCall call]) ((page p silence).serve call c).after ∧
      Numbered (ops ++ [.ofCall call]) ((page p silence).serve call c).abandoned := by
  have exchanged := numbered.exchange (p := p) (.ofCall call)
  constructor
  · dsimp only [page]
    split
    · exact exchanged.of_same rfl rfl nofun
    · exact exchanged
  · dsimp only [page]
    split
    · exact exchanged
    · exact numbered.send (.ofCall call)

def operationOf (made : TimedCall) : Operation := .ofCall made.call

theorem request {w : World (Connection β)} (numbered : Numbered ops w.page) (r : Request)
    (deadline : Nat) :
    Numbered (ops ++ (w.callOf r).map operationOf) (w.answer (page p silence) r).2.page ∧
      Numbered (ops ++ (w.callOf r).map operationOf)
        (w.giveUp (page p silence) deadline r).page := by
  cases r with
  | call c => exact numbered.serve p silence c
  | _ =>
    simp only [World.callOf, List.map_nil, List.append_nil]
    exact ⟨numbered, numbered⟩

theorem perform {α : Type} (play : Play α) {w : World (Connection β)}
    (numbered : Numbered ops w.page) :
    Numbered (ops ++ (play.perform (page p silence) w).calls.map operationOf)
      (play.perform (page p silence) w).world.page := by
  induction play generalizing ops w with
  | done a => exact (List.append_nil ops).symm ▸ numbered
  | crash => exact (List.append_nil ops).symm ▸ numbered
  | ask r next ih =>
    have first := (numbered.request p silence r 0).1
    rw [Play.perform, List.map_append, ← List.append_assoc]
    exact ih _ first
  | askBy deadline r next ih =>
    obtain ⟨inTime, late⟩ := numbered.request p silence r deadline
    rw [Play.perform]
    split
    · rw [List.map_append, ← List.append_assoc]
      exact ih _ inTime
    · rw [List.map_append, ← List.append_assoc]
      exact ih _ late

theorem launch (s : BrowserSettings) (state : β) :
    Numbered [.launch s] (launch p s (.ok state)).2 := by
  have fresh : Numbered [] ({ peer := some state } : Connection β) :=
    ⟨Nat.le_refl 0, rfl, fun _ => ⟨rfl, rfl⟩⟩
  exact fresh.exchange (.launch s)

theorem at_ (numbered : Numbered ops c) {k : Nat} {line : String}
    (written : c.sent[k]? = some line) : ∃ o, ops[k]? = some o ∧ line = o.line (k + 1) := by
  rw [numbered.sent, List.getElem?_mapIdx] at written
  obtain ⟨o, found, rfl⟩ := Option.map_eq_some_iff.mp written
  rw [List.getElem?_take] at found
  split at found
  · exact ⟨o, found, rfl⟩
  · cases found

end Numbered

structure Requests (p : Peer β) (s : BrowserSettings) : Prop where
  launch : ∀ id, ((Operation.launch s).request id).RealsReadBack →
    Framed id (.launch s) ∧ ((Operation.launch s).request id).AsksToLaunch s
  call : ∀ c id, c.InOrder → ((Operation.ofCall c).request id).RealsReadBack →
    Framed id (.ofCall c) ∧ ((Operation.ofCall c).request id).AsksFor c
  /-- The name tells the kinds of calls apart, and tells each of them from the launch. -/
  named : ∀ c : Call, (Operation.ofCall c).name ≠ (Operation.launch s).name ∧
    ∀ c' : Call, (Operation.ofCall c).name = (Operation.ofCall c').name → c.ctorIdx = c'.ctorIdx
  /-- What a document holds is in order. -/
  ordered : ∀ text j, Json.parse text = .ok j → j.InOrder
  first : ∀ state, (Bridge.launch p s (.ok state)).2.sent = [(Operation.launch s).line 1]
  /-- Behind the launch come the calls of whatever runs on the page, each with the next number, and
  none is left out while the bridge is there. -/
  numbered : ∀ state silence {α : Type} (play : Play α) (w : World (Connection β)),
    w.page = (Bridge.launch p s (.ok state)).2 →
      let d := play.perform (page p silence) w
      let ops := .launch s :: d.calls.map fun made => .ofCall made.call
      (∀ k line, d.world.page.sent[k]? = some line → ∃ o : Operation, ops[k]? = some o ∧
        line = o.line (k + 1)) ∧
      (d.world.page.peer.isSome = true → d.world.page.sent.length = ops.length)

theorem requests_framed (p : Peer β) (s : BrowserSettings) : Requests p s where
  launch id reals :=
    ⟨framed (Operation.distinct_launch s) (inOrder_launch s) reals, asksToLaunch_launch s id⟩
  call c id ordered reals :=
    ⟨framed (Operation.distinct_ofCall c) (Operation.inOrder_arguments ordered) reals,
      asksFor_ofCall c id⟩
  named c := by
    constructor
    · intro launches
      have name : c.name = "launch" := launches
      exact absurd (name ▸ c.name_mem) (by decide : "launch" ∉ Call.names)
    · intro c' same
      rw [← c.idxOf_name, ← c'.idxOf_name]
      exact congrArg Call.names.idxOf same
  ordered text j parsed := Json.inOrder_of_parse parsed
  first state := rfl
  numbered := by
    intro state silence α play w launched
    have begun : Numbered [.launch s] w.page := launched ▸ Numbered.launch p s state
    have ran := begun.perform p silence play
    exact ⟨fun k line written => ran.at_ written, fun there => (ran.open_ there).1⟩

namespace Sample

def half : JsonNumber := .real false ⟨twoTo 52, 1021, by decide⟩

def note : Call := .fill ⟨.testId "note", some 2⟩ "one\n\"two\"\x07"
  (some (.object [("delay", .number half), ("id", .array [.string "\n"])]))

def deaf : Peer Unit := ⟨fun _ _ => ([], some ())⟩

theorem note_framed :
    let request := (Operation.ofCall note).request 2
    note.InOrder ∧ request.RealsReadBack ∧ Framed 2 (.ofCall note) ∧ request.AsksFor note ∧
      Json.parse ((Operation.ofCall note).line 2) = .ok request := by
  intro request
  have options : Json.InOrder (.object [("delay", .number half), ("id", .array [.string "\n"])]) := by
    refine .object (List.pairwise_pair.mpr (by decide)) ?_
    simp [Json.InOrder.number, Json.InOrder.array, Json.InOrder.string]
  have ordered : note.InOrder := by
    intro j member
    obtain rfl := List.mem_singleton.mp member
    exact options
  have numbers : request.numbers = [.whole 2 (by decide), half, .whole 2 (by decide)] := by
    decide +kernel
  have reals : request.RealsReadBack := by
    intro negative size member
    simp only [numbers, List.mem_cons, reduceCtorEq, List.not_mem_nil, false_or, or_false] at member
    rw [member]
    decide +kernel
  obtain ⟨framed, asks⟩ := (requests_framed deaf {}).call note 2 ordered reals
  have shallow : Json.Levels.Allow (some Json.nestingLimit) request.depth := by
    rintro _ ⟨⟩
    decide +kernel
  have parsed := (Json.parse_eq _).trans (framed.reads _ shallow)
  exact ⟨ordered, reals, framed, asks, parsed⟩

end Sample

end Walkthrough.Bridge
