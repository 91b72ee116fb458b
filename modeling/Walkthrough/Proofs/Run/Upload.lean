import Walkthrough.Page.Memory
import Walkthrough.Proofs.Document.Accepted
import Walkthrough.Proofs.Document.UploadFile
import Walkthrough.Proofs.Run.TimeLimit

/-!
The files of an upload. They are those of the step's entries or, if the entries stand for nothing,
those that its data names. An upload whose files cannot be told leaves the page alone.
-/
namespace Walkthrough.Upload

def FromFiles (directory : String) (s : Step) (payloads : List Payload) : Prop :=
  ∃ entries, List.Forall₂ (Stands directory s.resolveFrom) s.files entries ∧
    payloads = entries.flatMap Option.toList

def FromData (directory : String) (s : Step) (payloads : List Payload) : Prop :=
  ∃ places,
    List.Forall₂ (Leads directory s.resolveFrom) ((offered s.data).filterMap pathOf?) places ∧
      payloads = places.map .path

section

variable {directory : String} {s : Step}

theorem fromData_iff {payloads : List Payload} : FromData directory s payloads ↔
    payloads = (dataPaths s.data).map fun path => .path (resolve directory path s.resolveFrom) := by
  have placed (places : List String) :
      List.Forall₂ (Leads directory s.resolveFrom) (dataPaths s.data) places ↔
        (dataPaths s.data).map (resolve directory · s.resolveFrom) = places := by
    rw [← List.forall₂_eq_eq_eq, List.forall₂_map_left_iff]
    simp only [resolve_iff]
  simp only [FromData, ← dataPaths_eq, placed, exists_eq_left', List.map_map]
  rfl

theorem collect_of_error {fault : Base64.Fault}
    (fails : ofFiles directory s.resolveFrom s.files = .error fault) :
    collect directory s = .error (.action s.action.name (.content fault)) := by
  rw [collect, fails]

theorem collect_of_payloads {payloads : List Payload}
    (made : ofFiles directory s.resolveFrom s.files = .ok payloads) (some_ : payloads ≠ []) :
    collect directory s = .ok payloads := by
  unfold collect
  split <;> rename_i other
  · cases made.symm.trans other
  · cases made.symm.trans other
    exact absurd rfl some_
  · cases made.symm.trans other
    rfl

theorem collect_of_nothing (made : ofFiles directory s.resolveFrom s.files = .ok [])
    {payloads : List Payload} (named : FromData directory s payloads) :
    collect directory s = if payloads = [] then .error .noUploadSource else .ok payloads := by
  rw [collect, made]
  dsimp only
  rw [← fromData_iff.mp named]
  cases payloads <;> rfl

theorem hasSource_eq_false_iff :
    hasSource s = false ↔ s.files.any isSource = false ∧ dataPaths s.data = [] := by
  rw [hasSource, Bool.or_eq_false_iff, ← Bool.not_eq_true (namesPath s.data), namesPath_iff,
    List.eq_nil_iff_forall_not_mem, not_exists]

inductive Tells (directory : String) (s : Step) : Except StepFault (List Payload) → Prop where
  | broken {why : Base64.Fault} (first : FirstFails s.files why) :
      Tells directory s (.error (.action s.action.name (.content why)))
  | files {payloads : List Payload} (given : FromFiles directory s payloads)
      (nonempty : payloads ≠ []) : Tells directory s (.ok payloads)
  | data {payloads : List Payload} (nothing : FromFiles directory s [])
      (named : FromData directory s payloads) (nonempty : payloads ≠ []) :
      Tells directory s (.ok payloads)
  | nowhere (nothing : FromFiles directory s []) (unnamed : FromData directory s []) :
      Tells directory s (.error .noUploadSource)

theorem collect_iff {result : Except StepFault (List Payload)} :
    collect directory s = result ↔ Tells directory s result := by
  constructor
  · rintro rfl
    cases made : ofFiles directory s.resolveFrom s.files with
    | error why =>
      rw [collect_of_error made]
      exact .broken (ofFiles_error_iff.mp made)
    | ok payloads =>
      have given : FromFiles directory s payloads := ofFiles_ok_iff.mp made
      by_cases empty : payloads = []
      · subst empty
        have named : FromData directory s _ := fromData_iff.mpr rfl
        rw [collect_of_nothing made named]
        split
        · next unnamed => exact .nowhere given (unnamed ▸ named)
        · next nonempty => exact .data given named nonempty
      · rw [collect_of_payloads made empty]
        exact .files given empty
  · rintro (first | ⟨given, nonempty⟩ | ⟨nothing, named, nonempty⟩ | ⟨nothing, unnamed⟩)
    · exact collect_of_error (ofFiles_error_iff.mpr first)
    · exact collect_of_payloads (ofFiles_ok_iff.mpr given) nonempty
    · rw [collect_of_nothing (ofFiles_ok_iff.mpr nothing) named, if_neg nonempty]
    · rw [collect_of_nothing (ofFiles_ok_iff.mpr nothing) unnamed, if_pos rfl]

theorem collect_invalid_iff :
    (∃ why, collect directory s = .error (.action s.action.name (.content why))) ↔
      ∃ file ∈ s.files, Broken file := by
  have broken (why : Base64.Fault) :
      collect directory s = .error (.action s.action.name (.content why)) ↔
        ofFiles directory s.resolveFrom s.files = .error why := by
    rw [collect_iff, ofFiles_error_iff]
    constructor
    · rintro ⟨first⟩
      exact first
    · exact .broken
  simp only [broken, ofFiles_fails_iff]

theorem collect_noUploadSource_iff :
    collect directory s = .error .noUploadSource ↔ hasSource s = false := by
  have nothing : FromFiles directory s [] ↔ s.files.any isSource = false :=
    ofFiles_ok_iff.symm.trans ofFiles_nil_iff
  have unnamed : FromData directory s [] ↔ dataPaths s.data = [] := by
    rw [fromData_iff, eq_comm, List.map_eq_nil_iff]
  rw [collect_iff, hasSource_eq_false_iff, ← nothing, ← unnamed]
  constructor
  · rintro (_ | _ | _ | ⟨nothing, unnamed⟩)
    exact ⟨nothing, unnamed⟩
  · rintro ⟨nothing, unnamed⟩
    exact .nowhere nothing unnamed

end

/-- The fault of an upload whose files cannot be told. A missing target is noticed first. -/
def refusal (fault : StepFault) : Option Target → StepFault
  | none => .uploadTargetMissing
  | some _ => fault

theorem upload_of_collect_error {directory : String} {s : Step} {fault : StepFault}
    (fails : collect directory s = .error fault) (target : Option Target) :
    s.upload directory target = throw (refusal fault target) := by
  unfold Step.upload
  cases target with
  | none => rfl
  | some t =>
    dsimp only
    rw [fails]
    rfl

theorem act_of_collect_error {σ : Type} {s : Step} {r : Runner} {fault : StepFault}
    (fails : collect r.directory s = .error fault) (action : s.action = .upload)
    (target : Option Target) (page : Page σ) (w : World σ) :
    s.actCourse r target page w = ⟨some (.error (refusal fault target)), [], w⟩ := by
  have limited : s.Limited r target := ⟨by simp [action], by simp [Step.lacksTarget, action]⟩
  refine Step.actCourse_of_throw page w limited ?_
  simp only [Step.unlimited, action, upload_of_collect_error fails]

/-- The law of the files of an upload. -/
structure Collects (directory : String) (s : Step) : Prop where
  tells : ∀ result, collect directory s = result ↔ Tells directory s result
  invalid : (∃ why, collect directory s = .error (.action s.action.name (.content why))) ↔
    ∃ file ∈ s.files, Broken file
  message : ∀ why, (StepFault.action s.action.name (.content why)).message =
    "Action '" ++ s.action.name ++ "' failed: " ++ ("invalid contentBase64: " ++ why.message)
  /-- The check before a run foresees that there is nothing to upload. -/
  sourceless : collect directory s = .error .noUploadSource ↔ hasSource s = false
  /-- An upload that is refused makes no call, whether or not it clears the input first. -/
  refused : ∀ fault, collect directory s = .error fault →
    ∀ {σ : Type} (target : Option Target) (page : Page σ) (w : World σ),
      (s.upload directory target).run.perform page w =
        ⟨some (.error (refusal fault target)), [], w⟩
  refusedInTime : ∀ fault, collect directory s = .error fault → s.action = .upload →
    ∀ {σ : Type} (r : Runner) (target : Option Target) (page : Page σ) (w : World σ),
      r.directory = directory →
        s.actCourse r target page w = ⟨some (.error (refusal fault target)), [], w⟩

theorem collect_collects (directory : String) (s : Step) : Collects directory s where
  tells result := collect_iff
  invalid := collect_invalid_iff
  message why := rfl
  sourceless := collect_noUploadSource_iff
  refused fault fails σ target page w := by
    rw [upload_of_collect_error fails]
    rfl
  refusedInTime fault fails action σ r target page w same := by
    subst same
    exact act_of_collect_error fails action target page w

namespace Sample

/-- An entry with content and a path, one with a path, and one with neither. The data is passed
over. -/
def mixed : Step :=
  { action := .upload, data := some (.string "c.txt")
    files := [{ contentBase64 := some " aGk= ", path := some "a.txt" }, { path := some "b.txt" },
      { path := some "" }] }

example : (collect "/work" mixed).toOption =
    some [.content "upload.bin" none [104, 105], .path "/work/b.txt"] := by decide +kernel

/-- An upload that would clear the input first, of an entry and data that name no path. -/
def bare : Step :=
  { action := .upload, clearFirst := true, files := [{ path := some "" }]
    data := some (.array [.bool true, .string ""]) }

def input : Target := ⟨.selector "input", none⟩

theorem bare_refused : collect "/work" bare = .error .noUploadSource ∧
    (bare.upload "/work" (some input)).run.perform MemoryPage.page { page := {} } =
      ⟨some (.error .noUploadSource), [], { page := {} }⟩ := by
  have law := collect_collects "/work" bare
  have fails : collect "/work" bare = .error .noUploadSource := law.sourceless.mpr (by decide)
  exact ⟨fails, law.refused _ fails (some input) MemoryPage.page { page := {} }⟩

end Sample

end Walkthrough.Upload
