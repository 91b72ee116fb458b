import Walkthrough.Proofs.Check.Misconfigured
import Walkthrough.Proofs.Check.Requests

/-!
The flaws of a validation as it is written, in the order in which they are noticed. The first of them
is what the validation fails with, and it does so before anything is asked of the page. A handler is
never blamed for a flaw, nor is a flaw for what a handler does.
-/
namespace Walkthrough

variable {σ : Type}

namespace StepFault

/-- The document or the registry lacks something that the validation cannot do without. -/
def isConfiguration : StepFault → Bool
  | .unsupportedSelectorType _ | .missingSelector _ | .missingAttributeKey
  | .missingCssPropertyKey | .customValidationNotFound _ | .unsupportedValidationType _ => true
  | _ => false

def isBadPattern : StepFault → Bool
  | .assertion _ (.badPattern _ _) => true
  | _ => false

def isFlaw (f : StepFault) : Bool := f.isConfiguration || f.isBadPattern

end StepFault

namespace Validation

section

variable (v : Validation)

def selectorFlaw : Option StepFault :=
  match v.selection.selector?, v.strategy with
  | some _, some (.unknown name) => some (.unsupportedSelectorType name)
  | _, _ => none

def kindFlaw (r : Runner) : Option StepFault :=
  match v.kind with
  | .toHaveAttribute => if v.attributeName.getD "" = "" then some .missingAttributeKey else none
  | .toHaveCss => if v.cssProperty.getD "" = "" then some .missingCssPropertyKey else none
  | .custom =>
    if (r.registry.validation? (v.customName.getD "")).isNone then
      some (.customValidationNotFound (v.customName.getD ""))
    else none
  | .unknown name =>
    if r.settings.strictValidationTypes then some (.unsupportedValidationType name) else none
  | _ => none

def targetFlaw (inherited : Option Target) : Option StepFault :=
  if v.kind.needsTarget && v.selection.selector?.isNone && inherited.isNone then
    some (.missingSelector v.kind.name)
  else none

def patternFlaw : Option StepFault :=
  match v.kind with
  | .toHaveUrl | .toHaveClass =>
    match Pattern.parse v.dataText with
    | .ok _ => none
    | .error fault => some (.assertion v.kind.name (.badPattern v.dataText fault))
  | _ => none

/-- All flaws, each on its own account, in the order in which they are noticed. -/
def flaws (r : Runner) (inherited : Option Target) : List StepFault :=
  v.selectorFlaw.toList ++ (v.kindFlaw r).toList ++ (v.targetFlaw inherited).toList ++
    v.patternFlaw.toList

def laterFlaw (r : Runner) (inherited : Option Target) : Option StepFault :=
  (v.kindFlaw r).or ((v.targetFlaw inherited).or v.patternFlaw)

end

variable {v : Validation} {r : Runner} {inherited own : Option Target} {f : StepFault}

theorem head?_flaws (v : Validation) (r : Runner) (inherited : Option Target) :
    (v.flaws r inherited).head? = v.selectorFlaw.or (v.laterFlaw r inherited) := by
  have first (o : Option StepFault) (rest : List StepFault) :
      (o.toList ++ rest).head? = o.or rest.head? := by
    cases o <;> rfl
  simp only [flaws, laterFlaw, List.append_assoc, first, Option.head?_toList]

theorem selectorFlaw_eq_some_iff : v.selectorFlaw = some f ↔ v.selection.target? = .error f := by
  rw [Selection.target?_error_iff, Option.isSome_iff_exists, selectorFlaw]
  change _ ↔ _ ∧ ∃ name, v.strategy = some (.unknown name) ∧ _
  split
  · next selector name selects strategy =>
    simp [selects, strategy, eq_comm]
  · next none =>
    simp only [reduceCtorEq, false_iff]
    rintro ⟨⟨selector, selects⟩, name, strategy, -⟩
    exact none selector name selects strategy

theorem targetFlaw_eq (resolved : v.selection.target? = .ok own) : v.targetFlaw inherited =
    if v.kind.needsTarget && (own.or inherited).isNone then some (.missingSelector v.kind.name)
    else none := by
  have selects : v.selection.selector?.isNone = own.isNone := by
    rw [← Option.not_isSome, ← Selection.target?_isSome resolved, Option.not_isSome]
  rw [targetFlaw, selects]
  cases own <;> simp

theorem requireText_eq (f : StepFault) (text : Option String) :
    requireText f text = if text.getD "" = "" then .error f else .ok (text.getD "") := by
  unfold requireText
  cases text with
  | none => rfl
  | some text => by_cases empty : text = "" <;> simp [empty, Option.filter]

theorem assertion?_flaws (r : Runner) (inherited : Option Target)
    (resolved : v.selection.target? = .ok own) (builtin : v.kind ≠ .custom)
    (known : ∀ name, v.kind ≠ .unknown name) :
    (v.assertion? (own.or inherited)).map Option.isSome =
      (v.laterFlaw r inherited).elim (.ok true) .error := by
  rw [laterFlaw, targetFlaw_eq resolved]
  -- Where the target comes from does not matter any more, only whether there is one.
  generalize own.or inherited = target
  cases kind : v.kind with
  | custom => exact absurd kind builtin
  | unknown name => exact absurd kind (known name)
  | toBeVisible | toBeHidden | toHaveText | toHaveValue =>
    cases target <;> simp [assertion?, kindFlaw, patternFlaw, requireTarget, kind,
      ValidationKind.needsTarget] <;> rfl
  | toHaveTitle => simp [assertion?, kindFlaw, patternFlaw, kind, ValidationKind.needsTarget]; rfl
  | toHaveAttribute =>
    by_cases missing : v.attributeName.getD "" = "" <;> cases target <;>
      simp [assertion?, kindFlaw, patternFlaw, requireText_eq, requireTarget, kind, missing,
        ValidationKind.needsTarget] <;> rfl
  | toHaveCss =>
    by_cases missing : v.cssProperty.getD "" = "" <;> cases target <;>
      simp [assertion?, kindFlaw, patternFlaw, requireText_eq, requireTarget, kind, missing,
        ValidationKind.needsTarget] <;> rfl
  | toHaveUrl =>
    cases parsed : Pattern.parse v.dataText <;>
      simp [assertion?, kindFlaw, patternFlaw, pattern, kind, parsed,
        ValidationKind.needsTarget] <;> rfl
  | toHaveClass =>
    cases parsed : Pattern.parse v.dataText <;> cases target <;>
      simp [assertion?, kindFlaw, patternFlaw, requireTarget, pattern, kind, parsed,
        ValidationKind.needsTarget] <;> rfl

theorem check_flawed (resolved : v.selection.target? = .ok own)
    (flaw : v.laterFlaw r inherited = some f) (expect : Expect) :
    v.check r ⟨own.or inherited, expect⟩ = throw f := by
  unfold check
  split
  · next kind =>
    -- The only flaw of a custom validation is a handler that is not registered.
    cases found : r.registry.validation? (v.customName.getD "") with
    | none =>
      simp only [laterFlaw, kindFlaw, kind, found, Option.isNone_none, if_true, Option.some_or,
        Option.some.injEq] at flaw
      subst flaw
      simp only [callHandler, found]
    | some handler =>
      simp [laterFlaw, kindFlaw, targetFlaw, patternFlaw, kind, found,
        ValidationKind.needsTarget] at flaw
  · next name kind =>
    split
    · next strict => simp_all [laterFlaw, kindFlaw]
    · next lax =>
      simp [laterFlaw, kindFlaw, targetFlaw, patternFlaw, kind, lax,
        ValidationKind.needsTarget] at flaw
  · next builtin known =>
    have asserts := assertion?_flaws r inherited resolved builtin known
    rw [flaw] at asserts
    cases made : v.assertion? (own.or inherited) with
    | error g =>
      rw [made] at asserts
      cases asserts
      rfl
    | ok a => simp [made, Except.map] at asserts

theorem check_flawless (resolved : v.selection.target? = .ok own)
    (flawless : v.laterFlaw r inherited = none) (expect : Expect) :
    (v.check r ⟨own.or inherited, expect⟩).Gives (fun _ => True) fun f => f.isFlaw = false := by
  unfold check
  split
  · next kind =>
    cases found : r.registry.validation? (v.customName.getD "") with
    | none => simp [laterFlaw, kindFlaw, kind, found] at flawless
    | some handler =>
      simp only [callHandler, found]
      refine Attempt.gives_bind (Attempt.gives_result (Attempt.gives_any _)) fun x _ => ?_
      cases x with
      | ok _ => exact Attempt.gives_pure trivial
      | error trouble => exact Attempt.gives_throw rfl
  · next name kind =>
    split
    · next strict => simp [laterFlaw, kindFlaw, kind, strict] at flawless
    · exact Attempt.gives_pure trivial
  · next builtin known =>
    have asserts := assertion?_flaws r inherited resolved builtin known
    rw [flawless] at asserts
    split
    · next made => simp [made, Except.map] at asserts
    · exact Attempt.gives_pure trivial
    · refine Attempt.gives_bind (Attempt.gives_ofPlay (Play.yields_any _)) fun x _ => ?_
      cases x with
      | ok _ => exact Attempt.gives_pure trivial
      | error observed => exact Attempt.gives_throw rfl

/-- What a validation fails with, if it does, before its soft flag counts. -/
def examine (v : Validation) (r : Runner) (inherited : Option Target) :
    Play (Except StepFault Unit) :=
  match v.selection.target? with
  | .error f => pure (.error f)
  | .ok own => (v.check r (v.scopeIn r own inherited)).run

theorem evaluate_judges (v : Validation) (r : Runner) (inherited : Option Target) :
    (v.evaluate r inherited).run = v.examine r inherited >>= fun x => pure (v.judge x) := by
  cases resolved : v.selection.target? with
  | ok own => simp only [evaluate_run resolved, examine, resolved]
  | error f =>
    obtain ⟨-, name, -, rfl⟩ := (Selection.target?_error_iff _ _).mp resolved
    simp only [evaluate, examine, resolved, pure_bind, judge, StepFault.isAssertion, Bool.and_false]
    rfl

theorem isFlaw_of_mem_flaws (mem : f ∈ v.flaws r inherited) : f.isFlaw = true := by
  simp only [flaws, List.mem_append, Option.mem_toList] at mem
  rcases mem with ((selector | kind) | target) | pattern
  · obtain ⟨-, name, -, rfl⟩ :=
      (Selection.target?_error_iff _ _).mp (selectorFlaw_eq_some_iff.mp selector)
    rfl
  · unfold kindFlaw at kind
    repeat' split at kind
    all_goals cases kind
    all_goals rfl
  · unfold targetFlaw at target
    split at target <;> cases target
    rfl
  · unfold patternFlaw at pattern
    repeat' split at pattern
    all_goals cases pattern
    all_goals rfl

theorem examine_flawed (first : (v.flaws r inherited).head? = some f) :
    v.examine r inherited = pure (.error f) := by
  rw [head?_flaws] at first
  cases resolved : v.selection.target? with
  | error g =>
    rw [selectorFlaw_eq_some_iff.mpr resolved] at first
    cases first
    simp only [examine, resolved]
  | ok own =>
    -- A selector that could be looked up is no flaw, so the first is one that the check notices.
    have selects : v.selectorFlaw = none :=
      Option.eq_none_iff_forall_ne_some.mpr fun g flaw => by
        simp [selectorFlaw_eq_some_iff.mp flaw] at resolved
    rw [selects, Option.none_or] at first
    simp only [examine, resolved, scopeIn, check_flawed resolved first]
    rfl

theorem examine_flawless (flawless : v.flaws r inherited = []) :
    (v.examine r inherited).Yields fun x => ∀ f, x = .error f → f.isFlaw = false := by
  have none : v.selectorFlaw.or (v.laterFlaw r inherited) = none := by
    rw [← head?_flaws, flawless, List.head?_nil]
  obtain ⟨selects, later⟩ := Option.or_eq_none_iff.mp none
  cases resolved : v.selection.target? with
  | error g => simp [selectorFlaw_eq_some_iff.mpr resolved] at selects
  | ok own =>
    simp only [examine, resolved]
    refine (check_flawless resolved later _).mono fun x blames f failed => ?_
    subst failed
    exact blames

theorem judge_flaw (flaw : f.isFlaw = true) : v.judge (.error f) =
    if v.soft && f.isBadPattern then .ok (.softFailed ⟨v.kind.name, f.report⟩) else .error f := by
  have same : f.isAssertion = f.isBadPattern := by
    revert flaw
    rcases f with - | - | - | - | - | - | - | - | - | - | - | - | - | - | ⟨kind, - | - | -⟩ <;>
      simp [StepFault.isFlaw, StepFault.isConfiguration, StepFault.isBadPattern,
        StepFault.isAssertion]
  rw [judge, same]

/-- Where the flaws of a validation are noticed before anything is asked for: its evaluation on a
page, from what it is examined to. -/
structure FlawsFirst (v : Validation) (r : Runner) (inherited : Option Target) (page : Page σ)
    (w : World σ) : Prop where
  /-- The soft flag changes nothing but how a failed assertion ends. -/
  judged : let c := (v.examine r inherited).perform page w
    (v.evaluate r inherited).run.perform page w = ⟨c.result.map v.judge, c.calls, c.world⟩
  /-- To fail with a flaw is to fail with the first that there is, without a call, in no time, and
  softly only for a bad pattern. -/
  unasked : ∀ f, ((v.examine r inherited).perform page w).result = some (.error f) →
    f.isFlaw = true → (v.flaws r inherited).head? = some f ∧
      (v.evaluate r inherited).run.perform page w =
        ⟨some (if v.soft && f.isBadPattern then .ok (.softFailed ⟨v.kind.name, f.report⟩)
          else .error f), [], w⟩
  /-- A flaw that ends the step was not softened from another. -/
  hard : ∀ f, ((v.evaluate r inherited).run.perform page w).result = some (.error f) →
    ((v.examine r inherited).perform page w).result = some (.error f)
  /-- The first flaw is noticed. -/
  noticed : ∀ f, (v.flaws r inherited).head? = some f → f.isFlaw = true ∧
    ((v.examine r inherited).perform page w).result = some (.error f)

/-- A validation fails with the first of its flaws before the page is asked anything. -/
theorem flaws_first (v : Validation) (r : Runner) (inherited : Option Target) (page : Page σ)
    (w : World σ) : v.FlawsFirst r inherited page w := by
  have judged : (v.evaluate r inherited).run.perform page w =
      let c := (v.examine r inherited).perform page w
      ⟨c.result.map v.judge, c.calls, c.world⟩ := by
    rw [evaluate_judges, Play.perform_bind_pure]
  refine ⟨judged, fun f failed flaw => ?_, fun f failed => ?_, fun f first => ?_⟩
  · cases found : v.flaws r inherited with
    | nil => simp [(examine_flawless found).result page w failed f rfl] at flaw
    | cons g rest =>
      have first : (v.flaws r inherited).head? = some g := by rw [found, List.head?_cons]
      rw [examine_flawed first, Play.perform_pure] at failed judged
      cases failed
      exact ⟨rfl, by simp only [judged, Option.map_some, judge_flaw flaw]⟩
  · rw [judged, Option.map_eq_some_iff] at failed
    obtain ⟨x, ends, judges⟩ := failed
    rcases x with g | _
    · simp only [judge] at judges
      split at judges
      · cases judges
      · cases judges
        exact ends
    · cases judges
  · refine ⟨isFlaw_of_mem_flaws (List.mem_of_mem_head? first), ?_⟩
    rw [examine_flawed first, Play.perform_pure]

namespace Sample

def bare : Validation := { kind := .toHaveAttribute, soft := true }

def unclosed : Validation := { kind := .toHaveUrl, data := some (.string "("), soft := true }

def somewhere : World MemoryPage := { page := {} }

/-- It is the name that is missed, and not softly; the pattern fails softly. -/
theorem bare_flaws_first :
    bare.flaws {} none = [.missingAttributeKey, .missingSelector "toHaveAttribute"] ∧
      (bare.evaluate {} none).run.perform MemoryPage.page somewhere =
        ⟨some (.error .missingAttributeKey), [], somewhere⟩ ∧
      ∃ failure, (unclosed.evaluate {} none).run.perform MemoryPage.page somewhere =
        ⟨some (.ok (.softFailed failure)), [], somewhere⟩ := by
  obtain ⟨-, unasked, -, noticed⟩ := flaws_first bare {} none MemoryPage.page somewhere
  obtain ⟨-, unasked', -, noticed'⟩ := flaws_first unclosed {} none MemoryPage.page somewhere
  refine ⟨by decide, ?_, ?_⟩
  · obtain ⟨flaw, fails⟩ := noticed .missingAttributeKey (by decide)
    exact (unasked _ fails flaw).2
  · have pattern : (unclosed.flaws {} none).head?.any StepFault.isBadPattern = true := by
      decide +kernel
    obtain ⟨fault, first, bad⟩ := (Option.any_eq_true ..).mp pattern
    obtain ⟨flaw, fails⟩ := noticed' fault first
    have evaluated := (unasked' fault fails flaw).2
    rw [bad] at evaluated
    exact ⟨_, evaluated⟩

end Sample

end Validation

end Walkthrough
