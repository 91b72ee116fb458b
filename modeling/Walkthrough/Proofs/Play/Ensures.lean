import Walkthrough.Proofs.Play.Laws

/-!
What a play keeps to, whatever it is answered: the requests that it may make, and what may come of
it. The statements are about the tree, so they hold on every page and also of answers that no page
gives twice.
-/
namespace Walkthrough

namespace Play

variable {σ α β : Type}

/-- All requests are allowed, and every way through the play ends as it should; a crash ends
without a result. -/
def Ensures (may : Request → Prop) (post : Option α → Prop) : Play α → Prop
  | .done a => post (some a)
  | .crash => post none
  | .ask r next => may r ∧ ∀ answer, (next answer).Ensures may post
  | .askBy _ r next => may r ∧ ∀ answer, (next answer).Ensures may post

theorem Ensures.mono {may may' : Request → Prop} {post post' : Option α → Prop} {p : Play α}
    (h : p.Ensures may post) (requests : ∀ r, may r → may' r) (ends : ∀ o, post o → post' o) :
    p.Ensures may' post' := by
  induction p with
  | done a => exact ends _ h
  | crash => exact ends _ h
  | ask r next ih => exact ⟨requests r h.1, fun answer => ih answer (h.2 answer)⟩
  | askBy deadline r next ih => exact ⟨requests r h.1, fun answer => ih answer (h.2 answer)⟩

theorem ensures_bind {may : Request → Prop} {mid : Option α → Prop} {post : Option β → Prop}
    {p : Play α} {next : α → Play β} (first : p.Ensures may mid)
    (goesOn : ∀ a, mid (some a) → (next a).Ensures may post) (crashes : mid none → post none) :
    (p >>= next).Ensures may post := by
  change (p.bind next).Ensures may post
  induction p with
  | done a => exact goesOn a first
  | crash => exact crashes first
  | ask r rest ih => exact ⟨first.1, fun answer => ih answer (first.2 answer)⟩
  | askBy deadline r rest ih => exact ⟨first.1, fun answer => ih answer (first.2 answer)⟩

theorem ensures_within {may : Request → Prop} {post : Option α → Prop} {p : Play α}
    (deadline : Nat) (h : p.Ensures may post) :
    (p.within deadline).Ensures may fun
      | none => post none
      | some none => True
      | some (some a) => post (some a) := by
  induction p with
  | done a => exact h
  | crash => exact h
  | ask r next ih =>
    simp only [within]
    refine ⟨h.1, fun answer => ?_⟩
    cases answer with
    | none => trivial
    | some answer => exact ih answer (h.2 answer)
  | askBy earlier r next ih =>
    simp only [within]
    split
    · exact ⟨h.1, fun answer => ih answer (h.2 answer)⟩
    · refine ⟨h.1, fun answer => ?_⟩
      cases answer with
      | none => trivial
      | some answer => exact ih (some answer) (h.2 (some answer))

theorem Ensures.result {may : Request → Prop} {post : Option α → Prop} {p : Play α}
    (h : p.Ensures may post) (page : Page σ) (w : World σ) :
    post (p.perform page w).result := by
  induction p generalizing w with
  | done a => exact h
  | crash => exact h
  | ask r next ih => exact ih _ (h.2 _) _
  | askBy deadline r next ih =>
    simp only [perform]
    split
    · exact ih _ (h.2 _) _
    · exact ih _ (h.2 _) _

def Yields (good : α → Prop) (p : Play α) : Prop :=
  p.Ensures (fun _ => True) fun o => ∀ a, o = some a → good a

theorem yields_pure {good : α → Prop} {a : α} (h : good a) : (pure a : Play α).Yields good := by
  rintro _ ⟨⟩
  exact h

theorem yields_any (p : Play α) : p.Yields fun _ => True := by
  induction p with
  | done a => exact fun _ _ => trivial
  | crash => exact fun _ _ => trivial
  | ask r next ih => exact ⟨trivial, ih⟩
  | askBy deadline r next ih => exact ⟨trivial, ih⟩

theorem Yields.mono {good good' : α → Prop} {p : Play α} (h : p.Yields good)
    (weaker : ∀ a, good a → good' a) : p.Yields good' :=
  Ensures.mono h (fun _ _ => trivial) fun _ ends a eq => weaker a (ends a eq)

theorem yields_bind {good : α → Prop} {good' : β → Prop} {p : Play α} {next : α → Play β}
    (first : p.Yields good) (goesOn : ∀ a, good a → (next a).Yields good') :
    (p >>= next).Yields good' :=
  ensures_bind first (fun a h => goesOn a (h a rfl)) (fun _ _ eq => nomatch eq)

theorem yields_then {good : β → Prop} {p : Play α} {next : α → Play β}
    (goesOn : ∀ a, (next a).Yields good) : (p >>= next).Yields good :=
  yields_bind p.yields_any fun a _ => goesOn a

theorem yields_within {good : α → Prop} {p : Play α} (deadline : Nat) (h : p.Yields good) :
    (p.within deadline).Yields fun o => ∀ a, o = some a → good a := by
  refine (ensures_within deadline h).mono (fun _ => id) fun o ends x eq a some_ => ?_
  subst eq some_
  exact ends a rfl

theorem yields_limited {good : α → Prop} {p : Play α} (limit : Nat) (h : p.Yields good) :
    (p.limited limit).Yields fun o => ∀ a, o = some a → good a :=
  yields_then fun _ => yields_within _ h

theorem Yields.result {good : α → Prop} {p : Play α} (h : p.Yields good) (page : Page σ)
    (w : World σ) {a : α} (eq : (p.perform page w).result = some a) : good a :=
  Ensures.result h page w a eq

/-- The play makes allowed requests only, and crashes only where that is allowed. -/
def Confined (may : Request → Prop) (crash : Prop) (p : Play α) : Prop :=
  p.Ensures may fun o => o = none → crash

variable {may : Request → Prop} {crash : Prop}

theorem confined_pure (a : α) : (pure a : Play α).Confined may crash := nofun

theorem confined_request {r : Request} (allowed : may r) :
    (request r).Confined may crash := ⟨allowed, nofun⟩

theorem confined_bind {p : Play α} {next : α → Play β} (first : p.Confined may crash)
    (goesOn : ∀ a, (next a).Confined may crash) : (p >>= next).Confined may crash :=
  ensures_bind first (fun a _ => goesOn a) fun h _ => h rfl

theorem confined_within {p : Play α} (deadline : Nat) (h : p.Confined may crash) :
    (p.within deadline).Confined may crash :=
  (ensures_within deadline h).mono (fun _ => id) fun o ends none => by
    subst none
    exact ends rfl

end Play

namespace Attempt

variable {ε δ α β : Type}

@[simp] theorem run_ofPlay (p : Play α) :
    (ofPlay p : Attempt ε α).run = p >>= fun a => pure (.ok a) := rfl

@[simp] theorem run_result (a : Attempt ε α) :
    (result a : Attempt δ _).run = a.run >>= fun x => pure (.ok x) := rfl

def Gives (good : α → Prop) (bad : ε → Prop) (a : Attempt ε α) : Prop :=
  a.run.Yields fun
    | .ok x => good x
    | .error e => bad e

variable {good : α → Prop} {bad : ε → Prop}

theorem gives_pure {x : α} (h : good x) : (pure x : Attempt ε α).Gives good bad :=
  Play.yields_pure h

theorem gives_throw {e : ε} (h : bad e) : (throw e : Attempt ε α).Gives good bad :=
  Play.yields_pure h

theorem gives_ofPlay {p : Play α} (h : p.Yields good) : (ofPlay p).Gives good bad := by
  refine Play.yields_bind h fun x hx => ?_
  rintro _ ⟨⟩
  exact hx

theorem gives_bind {good' : β → Prop} {a : Attempt ε α} {next : α → Attempt ε β}
    (first : a.Gives good bad) (goesOn : ∀ x, good x → (next x).Gives good' bad) :
    (a >>= next).Gives good' bad := by
  refine Play.yields_bind first fun x h => ?_
  cases x with
  | ok x => exact goesOn x h
  | error e => exact Play.yields_pure h

theorem gives_any (a : Attempt ε α) : a.Gives (fun _ => True) fun _ => True :=
  a.run.yields_any.mono fun x _ => by cases x <;> trivial

theorem gives_result {bad' : δ → Prop} {a : Attempt ε α} (h : a.Gives good bad) :
    (result a : Attempt δ _).Gives (fun
      | .ok x => good x
      | .error e => bad e) bad' := by
  refine Play.yields_bind h fun x hx => ?_
  rintro _ ⟨⟩
  exact hx

def Confined (may : Request → Prop) (crash : Prop) (a : Attempt ε α) : Prop :=
  a.run.Confined may crash

end Attempt

end Walkthrough
