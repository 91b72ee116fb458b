import Walkthrough.Proofs.Check.Misconfigured
import Walkthrough.Proofs.Document.Problems
import Walkthrough.Proofs.Run.Arrival
import Walkthrough.Proofs.Run.Units
import Walkthrough.Proofs.Run.Upload

/-!
Alarms come true. When the checks before a run tell that the action of a step cannot be carried out,
a run that comes to the step ends there, with a code that was told and before the step asks the page
for anything.
-/
namespace Walkthrough

/-- A problem for which the action of a step cannot be carried out. A selector of unknown kind is one
where there is something to select. -/
inductive StepProblem.Prevents (s : Step) : StepProblem → Prop where
  | action (name : String) : Prevents s (.unknownAction name)
  | handler (name : String) : Prevents s (.unknownCustomAction name)
  | source : Prevents s .missingUploadSource
  | target : Prevents s .uploadWithoutSelector
  | selector {name : String} (selects : s.selects = true)
      (strategy : s.selection.unknownStrategy? = some name) :
      Prevents s (.unknownSelectorType name)

theorem Selection.unknownStrategy?_eq_some_iff (s : Selection) (name : String) :
    s.unknownStrategy? = some name ↔ s.strategy = some (.unknown name) := by
  unfold unknownStrategy?
  cases s.strategy with
  | none => simp
  | some used => cases used <;> simp

namespace Step

variable {s : Step} {registry : Registry} {p : StepProblem} {f : StepFault} {target : Option Target}

def Foretells (s : Step) (registry : Registry) (f : StepFault) : Prop :=
  ∃ q, s.Has registry q ∧ q.code = f.code

theorem foretells_of_action (found : p ∈ s.actionProblems registry) (same : p.code = f.code) :
    s.Foretells registry f :=
  ⟨p, .own (by simp [ownProblems, found]), same⟩

/-- Apart from a selector that cannot be looked up, it is the action itself that has the problem. -/
theorem Has.of_prevents (has : s.Has registry p) (prevents : p.Prevents s)
    (resolved : s.selection.target? = .ok target) : p ∈ s.actionProblems registry := by
  have selected {name : String} (selects : s.selects = true)
      (strategy : s.selection.unknownStrategy? = some name) : False := by
    have unsupported := (Selection.target?_error_iff s.selection _).mpr
      ⟨selects, name, (Selection.unknownStrategy?_eq_some_iff _ _).mp strategy, rfl⟩
    simp [resolved] at unsupported
  cases has with
  | own found =>
    rw [ownProblems, List.mem_append, List.mem_append] at found
    rcases found with (acts | misplaced) | strategy
    · exact acts
    · split at misplaced
      · obtain rfl := List.mem_singleton.mp misplaced
        cases prevents
      · cases misplaced
    · obtain ⟨name, -, rfl⟩ := List.mem_map.mp strategy
      cases prevents with
      | selector selects strategy => exact (selected selects strategy).elim
  | inherited member _ =>
    cases prevents with
    | selector selects strategy => exact (selected selects strategy).elim

/-- The fault of an action that has a problem, on the target that the step selects. A step that
selects nothing has no target to upload to, which is noticed before its files are. -/
theorem unlimited_throws (found : p ∈ s.actionProblems registry) (prevents : p.Prevents s)
    (selected : target.isSome = s.selects) :
    ∃ f, s.Foretells registry f ∧ ∀ r : Runner, r.registry = registry →
      s.Limited r target ∧ s.unlimited r target = throw f := by
  cases kind : s.action with
  | unknown name =>
    simp only [actionProblems, kind, List.mem_singleton] at found
    refine ⟨.unsupportedAction name, foretells_of_action (p := .unknownAction name) ?_ rfl, ?_⟩
    · simp [actionProblems, kind]
    · intro r _
      exact ⟨⟨by simp [kind], by simp [lacksTarget, kind, Action.needsTarget]⟩,
        by simp only [unlimited, kind]⟩
  | custom =>
    simp only [actionProblems, kind] at found
    split at found
    · obtain rfl := List.mem_singleton.mp found
      cases prevents
    · rename_i name given
      obtain ⟨named, -⟩ := Option.filter_eq_some_iff.mp given
      split at found
      · rename_i unregistered
        refine ⟨.customActionNotFound name,
          foretells_of_action (p := .unknownCustomAction name) ?_ rfl, ?_⟩
        · simp [actionProblems, kind, given, unregistered]
        · rintro r rfl
          refine ⟨⟨by simp [kind], by simp [lacksTarget, kind, Action.needsTarget]⟩, ?_⟩
          have unknown := Option.isNone_iff_eq_none.mp unregistered
          simp only [unlimited, kind, callHandler, named, Option.getD_some, unknown]
      · cases found
  | upload =>
    have limited (r : Runner) : s.Limited r target :=
      ⟨by simp [kind], by simp [lacksTarget, kind]⟩
    cases target with
    | none =>
      have selects : s.selects = false := by simpa using selected.symm
      refine ⟨.uploadTargetMissing, foretells_of_action (p := .uploadWithoutSelector) ?_ rfl, ?_⟩
      · simp [actionProblems, kind, selects]
      · exact fun r _ => ⟨limited r, by simp only [unlimited, kind, upload]⟩
    | some t =>
      have selects : s.selects = true := by simpa using selected.symm
      have sourceless : Upload.hasSource s = false := by
        simpa [actionProblems, kind, selects] using List.ne_nil_of_mem found
      refine ⟨.noUploadSource, foretells_of_action (p := .missingUploadSource) ?_ rfl, ?_⟩
      · simp [actionProblems, kind, sourceless]
      · intro r _
        have nothing : Upload.collect r.directory s = .error .noUploadSource :=
          Upload.collect_noUploadSource_iff.mpr sourceless
        refine ⟨limited r, ?_⟩
        simp only [unlimited, kind, Upload.upload_of_collect_error nothing]
        rfl
  | _ => simp [actionProblems, kind] at found

theorem round_of_act_fails {σ : Type} {r : Runner} {page : Page σ} {w : World σ}
    (fails : s.actCourse r target page w = ⟨some (.error f), [], w⟩) :
    (s.round r target).perform page w = ⟨some (.ofFault f), [], w⟩ := by
  have acted : (s.act r target).run.perform page w = ⟨some (.error f), [], w⟩ := fails
  rw [round, Play.perform_bind, acted]
  rfl

theorem drive_fails (has : s.Has registry p) (prevents : p.Prevents s)
    (single : s.iterate = true → s.selects = false) :
    ∃ f, s.Foretells registry f ∧ ∀ r : Runner, r.registry = registry →
      ∀ {σ : Type} (page : Page σ) (w : World σ),
        (s.drive r).perform page w = ⟨some (.ofFault f), [], w⟩ := by
  cases resolved : s.selection.target? with
  | error f =>
    obtain ⟨selects, name, strategy, rfl⟩ := (Selection.target?_error_iff _ _).mp resolved
    have told := (Selection.unknownStrategy?_eq_some_iff s.selection name).mpr strategy
    have found : .unknownSelectorType name ∈ s.ownProblems registry := by simp [ownProblems, told]
    refine ⟨.unsupportedSelectorType name, ⟨_, .own found, rfl⟩, fun r _ σ page w => ?_⟩
    simp only [drive, resolved]
    rfl
  | ok target =>
    have selected : target.isSome = s.selects := Selection.target?_isSome resolved
    obtain ⟨f, foretold, throws⟩ :=
      unlimited_throws (has.of_prevents prevents resolved) prevents selected
    refine ⟨f, foretold, fun r same σ page w => ?_⟩
    obtain ⟨limited, fails⟩ := throws r same
    have one : s.iterate = true → target = none := fun iterates => by
      simpa [single iterates] using selected
    rw [drive_once resolved one, Play.perform_bind_pure,
      round_of_act_fails (actCourse_of_throw page w limited fails)]
    rfl

end Step

namespace TestCase

/-- A run comes to its end at the step with the given index, which asks the page for nothing. -/
structure EndsIdle {σ : Type} (c : TestCase) (r : Runner) (page : Page σ) (w : World σ) (i : Nat)
    (f : StepFault) : Prop where
  report : ∃ report entries e, (c.course r page w).result = some (.ok report) ∧
    report.outcome = .aborted ∧ report.steps = entries ++ [e] ∧ entries.length = i ∧
      e.error = some f.report ∧ e.softFailures = [] ∧ e.iterations = []
  calls : (c.course r page w).calls = (c.approach r page w i).calls
  world : (c.course r page w).world = (c.approach r page w i).world

/-- An alarm about the action of a step that does not iterate is never false: in every run with the
same registry the step makes no call, and a run that comes to it ends there, with one of the codes
that the checks told of the step. -/
theorem alarm_comes_true (c : TestCase) (registry : Registry) (checked : RunSettings) {i : Nat}
    {s : Step} {p : StepProblem} (at_ : c.steps[i]? = some s)
    (told : .inStep (i + 1) p ∈ c.problems registry checked) (prevents : p.Prevents s)
    (single : s.iterate = true → s.selects = false) :
    ∃ f, (∃ q, .inStep (i + 1) q ∈ c.problems registry checked ∧ q.code = f.code) ∧
      ∀ r : Runner, r.registry = registry → ∀ {σ : Type} (page : Page σ) (w : World σ),
        (s.drive r).perform page w = ⟨some (.ofFault f), [], w⟩ ∧
        (c.Reaches r page w i → c.EndsIdle r page w i f) ∧
        ∀ report, (c.course r page w).result = some (.ok report) → i < report.steps.length →
          c.Reaches r page w i := by
  obtain ⟨f, ⟨q, has, code⟩, fails⟩ :=
    Step.drive_fails ((inStep_mem_problems_iff at_).mp told) prevents single
  refine ⟨f, ⟨q, (inStep_mem_problems_iff at_).mpr has, code⟩, fun r same σ page w => ?_⟩
  refine ⟨fails r same page w, fun reached => ?_, fun _ => reaches_of_shown⟩
  have idle := fails r same page (c.approach r page w i).world
  have ends := reached.aborts at_ (congrArg Course.result idle) rfl
  obtain ⟨report, entries, ended, aborted, steps, many, -⟩ := ends.report
  have calls := ends.calls
  have world := ends.world
  rw [idle] at calls world
  exact ⟨⟨report, entries, _, ended, aborted, steps, many, rfl, rfl, rfl⟩,
    calls.trans (List.append_nil _), world⟩

end TestCase

namespace Sample

def barren : TestCase where
  description := "barren"
  steps := [{ action := .hover, selector := some "li" },
    { action := .upload, strategy := some (.unknown "shadow") }, { action := .goto }]

/-- The kind of its selector is told as well, but does not matter, as the step selects nothing. -/
theorem barren_comes_true :
    barren.problems runner.registry .strict = [.inStep 2 .missingUploadSource,
        .inStep 2 .uploadWithoutSelector, .inStep 2 (.unknownSelectorType "shadow")] ∧
      barren.Reaches runner MemoryPage.page start 1 ∧
      ∃ f, barren.EndsIdle runner MemoryPage.page start 1 f ∧
        (barren.course runner MemoryPage.page start).calls.map (·.call.name) = ["hover"] := by
  have told : barren.problems runner.registry .strict = [.inStep 2 .missingUploadSource,
      .inStep 2 .uploadWithoutSelector, .inStep 2 (.unknownSelectorType "shadow")] := by
    decide +kernel
  have arrives : (barren.approach runner MemoryPage.page start 1).result.map (·.2) =
      some .completed := by decide +kernel
  obtain ⟨⟨entries, outcome⟩, approached, rfl⟩ := Option.map_eq_some_iff.mp arrives
  have reached : barren.Reaches runner MemoryPage.page start 1 := ⟨by decide, entries, approached⟩
  obtain ⟨f, -, comes⟩ := TestCase.alarm_comes_true barren runner.registry .strict (i := 1) rfl
    (p := .missingUploadSource) (by simp [told]) .source (by decide)
  obtain ⟨-, ends, -⟩ := comes runner rfl MemoryPage.page start
  exact ⟨told, reached, f, ends reached, by decide +kernel⟩

end Sample

end Walkthrough
