import Walkthrough.Proofs.Play.Laws

/-!
Transcripts of plays: the calls that a play makes on a page, in order, each with the answer that the
page gave it.
-/
namespace Walkthrough

structure AnsweredCall where
  call : Call
  answer : Option call.Answer

def AnsweredCall.served (a : AnsweredCall) : Bool :=
  match a.answer with
  | some (.ok _) => true
  | _ => false

def Request.answered : (r : Request) → Option r.Answer → List AnsweredCall
  | .call c, answer => [⟨c, answer⟩]
  | _, _ => []

namespace Play

variable {σ α β : Type}

def transcript (page : Page σ) : Play α → World σ → List AnsweredCall
  | .done _, _ => []
  | .crash, _ => []
  | .ask r next, w =>
    let (answer, after) := w.answer page r
    r.answered (some answer) ++ (next answer).transcript page after
  | .askBy deadline r next, w =>
    if w.now + w.delay page r ≤ deadline then
      let (answer, after) := w.answer page r
      r.answered (some answer) ++ (next (some answer)).transcript page after
    else r.answered none ++ (next none).transcript page (w.giveUp page deadline r)

theorem answered_calls (w : World σ) (r : Request) (answer : Option r.Answer) :
    (r.answered answer).map (·.call) = (w.callOf r).map (·.call) := by
  cases r <;> rfl

theorem transcript_calls (page : Page σ) (p : Play α) (w : World σ) :
    (p.transcript page w).map (·.call) = (p.perform page w).calls.map (·.call) := by
  induction p generalizing w with
  | done a => rfl
  | crash => rfl
  | ask r next ih => simp only [transcript, perform, List.map_append, answered_calls w, ih]
  | askBy deadline r next ih =>
    simp only [transcript, perform]
    split <;> simp only [List.map_append, answered_calls w, ih]

theorem transcript_call_bind (page : Page σ) (c : Call) (next : c.Answer → Play α) (w : World σ) :
    (call c >>= next).transcript page w =
      ⟨c, some (w.answer page (.call c)).1⟩ ::
        (next (w.answer page (.call c)).1).transcript page (w.answer page (.call c)).2 := rfl

end Play

end Walkthrough
