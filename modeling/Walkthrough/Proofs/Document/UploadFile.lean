import Walkthrough.Proofs.Fault.InTurn
import Walkthrough.Proofs.Text.Ascii
import Walkthrough.Proofs.Text.Base64
import Walkthrough.Upload

/-!
The entries of an upload, and the paths that data names. An entry stands for its content or else for
its path; content that is no base64 cannot be read.
-/
namespace Walkthrough

namespace Path

inductive Rooted : List Char → Prop where
  | root {rest : List Char} : Rooted ('/' :: rest)
  | drive {letter slash : Char} {rest : List Char} (alphabetic : Text.IsLetter letter)
      (either : slash = '\\' ∨ slash = '/') : Rooted (letter :: ':' :: slash :: rest)

theorem isRooted_iff {path : String} : isRooted path = true ↔ Rooted path.toList := by
  unfold isRooted
  constructor
  · intro rooted
    split at rooted
    · next at_ => exact at_ ▸ .root
    · next at_ =>
      rw [Bool.and_eq_true, Bool.or_eq_true, beq_iff_eq, beq_iff_eq] at rooted
      exact at_ ▸ .drive (Text.isAlpha_iff.mp rooted.1) rooted.2
    · cases rooted
  · intro rooted
    generalize path.toList = cs at rooted
    cases rooted with
    | root => rfl
    | drive alphabetic either =>
      split
      · rfl
      · next at_ =>
        cases at_
        rw [Text.isAlpha_iff.mpr alphabetic]
        rcases either with rfl | rfl <;> rfl
      · next other => exact absurd rfl (other _ _ _)

end Path

namespace Upload

/-- Where a path leads to: it is taken from the directory, unless it is rooted or is to stay as it
is. -/
inductive Leads (directory : String) : PathBase → String → String → Prop where
  | kept {path : String} : Leads directory .none path path
  | rooted {path : String} (h : Path.Rooted path.toList) :
      Leads directory .workingDirectory path path
  | joined {path : String} (h : ¬Path.Rooted path.toList) :
      Leads directory .workingDirectory path (Path.below directory path)

theorem resolve_iff {directory path place : String} {base : PathBase} :
    resolve directory path base = place ↔ Leads directory base path place := by
  unfold resolve
  cases base with
  | none =>
    constructor
    · rintro rfl
      exact .kept
    · rintro ⟨⟩
      rfl
  | workingDirectory =>
    dsimp only
    split
    · next rooted =>
      rw [Path.isRooted_iff] at rooted
      constructor
      · rintro rfl
        exact .rooted rooted
      · rintro (_ | _ | relative)
        · rfl
        · contradiction
    · next relative =>
      rw [Path.isRooted_iff] at relative
      constructor
      · rintro rfl
        exact .joined relative
      · rintro (_ | rooted | _)
        · contradiction
        · rfl

def trimmed (content : String) : List UInt8 := (Text.trim content).toUTF8.toList

def Broken (file : UploadFile) : Prop :=
  ∃ content, file.contentBase64 = some content ∧ ∀ bytes, trimmed content ≠ Base64.encode bytes

/-- What an entry stands for. -/
inductive Stands (directory : String) (base : PathBase) (file : UploadFile) :
    Option Payload → Prop where
  | content {content : String} {bytes : List UInt8} (given : file.contentBase64 = some content)
      (encoded : trimmed content = Base64.encode bytes) :
      Stands directory base file
        (some (.content (file.name.getD "upload.bin") file.mimeType bytes))
  | path {path place : String} (empty : file.contentBase64 = none) (given : file.path = some path)
      (nonempty : path ≠ "") (leads : Leads directory base path place) :
      Stands directory base file (some (.path place))
  | nothing (empty : file.contentBase64 = none)
      (pathless : ∀ path, file.path = some path → path = "") : Stands directory base file none

def offered : Option Json → List Json
  | some (.string path) => [.string path]
  | some (.array items) => items
  | _ => []

def pathOf? : Json → Option String
  | .string path => if path = "" then none else some path
  | _ => none

theorem dataPaths_eq (data : Option Json) : dataPaths data = (offered data).filterMap pathOf? := by
  have each (items : List Json) :
      (items.filterMap Json.string?).filter (· != "") = items.filterMap pathOf? := by
    rw [List.filter_filterMap]
    refine List.filterMap_congr fun item _ => ?_
    cases item with
    | string path => by_cases empty : path = "" <;> simp [Json.string?, pathOf?, empty]
    | _ => rfl
  rcases data with _ | item
  · rfl
  · cases item with
    | string path => exact each [.string path]
    | array items => exact each items
    | _ => rfl

def Fails (file : UploadFile) (fault : Base64.Fault) : Prop :=
  ∃ content, file.contentBase64 = some content ∧ Base64.decode (trimmed content) = .error fault

theorem broken_iff {file : UploadFile} : Broken file ↔ ∃ fault, Fails file fault := by
  simp only [Broken, Fails, ← Base64.decode_error_iff, ← exists_and_left]
  exact exists_comm

section

variable {directory : String} {base : PathBase}

theorem ofFile_content {file : UploadFile} {content : String}
    (given : file.contentBase64 = some content) : ofFile directory base file =
      (Base64.decode (trimmed content)).map fun bytes =>
        some (.content (file.name.getD defaultName) file.mimeType bytes) := by
  unfold ofFile
  rw [given]
  dsimp only
  rw [← trimmed]
  cases Base64.decode (trimmed content) <;> rfl

theorem ofFile_path {file : UploadFile} (empty : file.contentBase64 = none) :
    ofFile directory base file =
      .ok ((file.path.filter (· != "")).map fun path => .path (resolve directory path base)) := by
  unfold ofFile
  rw [empty]
  dsimp only
  cases file.path with
  | none => rfl
  | some path => by_cases blank : path = "" <;> simp [Option.filter, blank]

theorem ofFile_error_iff {file : UploadFile} {fault : Base64.Fault} :
    ofFile directory base file = .error fault ↔ Fails file fault := by
  unfold Fails
  cases given : file.contentBase64 with
  | some content =>
    rw [ofFile_content given]
    simp only [Option.some.injEq, exists_eq_left']
    cases Base64.decode (trimmed content) <;> simp [Except.map]
  | none => simp [ofFile_path given]

theorem ofFile_ok_iff {file : UploadFile} {entry : Option Payload} :
    ofFile directory base file = .ok entry ↔ Stands directory base file entry := by
  constructor
  · intro made
    cases given : file.contentBase64 with
    | some content =>
      rw [ofFile_content given] at made
      cases decoded : Base64.decode (trimmed content) with
      | error fault =>
        rw [decoded] at made
        cases made
      | ok bytes =>
        rw [decoded] at made
        cases made
        exact .content given (Base64.decode_ok_iff_encode.mp decoded)
    | none =>
      rw [ofFile_path given] at made
      cases made
      cases at_ : file.path with
      | none => exact .nothing given (by simp [at_])
      | some path =>
        by_cases blank : path = ""
        · subst blank
          exact .nothing given (by simp [at_])
        · simpa [Option.filter, blank] using .path given at_ blank (resolve_iff.mp rfl)
  · rintro (⟨given, encoded⟩ | ⟨empty, given, nonempty, leads⟩ | ⟨empty, pathless⟩)
    · rw [ofFile_content given, Base64.decode_ok_iff_encode.mpr encoded]
      rfl
    · rw [ofFile_path empty, given, ← resolve_iff.mpr leads]
      simp [Option.filter, nonempty]
    · rw [ofFile_path empty]
      cases at_ : file.path with
      | none => rfl
      | some path => simp [Option.filter, pathless path at_]

def FirstFails (files : List UploadFile) (fault : Base64.Fault) : Prop :=
  ∃ before file after, files = before ++ file :: after ∧ (∀ earlier ∈ before, ¬Broken earlier) ∧
    Fails file fault

theorem ofFiles_goesInTurn (directory : String) (base : PathBase) :
    GoesInTurn (ofFile directory base) Option.toList (ofFiles directory base) where
  nil := rfl
  cons _ _ := rfl

theorem ofFiles_ok_iff {files : List UploadFile} {payloads : List Payload} :
    ofFiles directory base files = .ok payloads ↔
      ∃ entries, List.Forall₂ (Stands directory base) files entries ∧
        payloads = entries.flatMap Option.toList := by
  rw [(ofFiles_goesInTurn directory base).ok_iff]
  simp only [ofFile_ok_iff]

theorem ofFiles_error_iff {files : List UploadFile} {fault : Base64.Fault} :
    ofFiles directory base files = .error fault ↔ FirstFails files fault := by
  have read (file : UploadFile) :
      (∃ entry, ofFile directory base file = .ok entry) ↔ ¬Broken file := by
    have failure (why : Base64.Fault) : Fails file why ↔ ofFile directory base file = .error why :=
      ofFile_error_iff.symm
    simp only [broken_iff, failure]
    cases ofFile directory base file <;> simp
  rw [(ofFiles_goesInTurn directory base).error_iff]
  simp only [FirstFails, ofFile_error_iff, read]

theorem ofFiles_fails_iff {files : List UploadFile} :
    (∃ fault, ofFiles directory base files = .error fault) ↔ ∃ file ∈ files, Broken file := by
  rw [(ofFiles_goesInTurn directory base).fails_iff]
  simp only [broken_iff, ofFile_error_iff]

theorem ofFile_none_iff {file : UploadFile} :
    ofFile directory base file = .ok none ↔ isSource file = false := by
  unfold isSource
  cases given : file.contentBase64 with
  | some content =>
    rw [ofFile_content given]
    cases Base64.decode (trimmed content) <;> simp [Except.map]
  | none =>
    rw [ofFile_path given]
    cases file.path <;> simp [Option.filter_eq_none_iff]

theorem ofFiles_nil_iff {files : List UploadFile} :
    ofFiles directory base files = .ok [] ↔ files.any isSource = false := by
  induction files with
  | nil => simp [ofFiles]
  | cons file rest ih =>
    have first : ofFile directory base file = .ok none ↔ isSource file = false := ofFile_none_iff
    rw [ofFiles, inTurn_eq_ok_iff, List.any_cons, Bool.or_eq_false_iff, ← first, ← ih]
    constructor
    · rintro ⟨entry, others, made, more, nothing⟩
      obtain ⟨none_, rfl⟩ := List.append_eq_nil_iff.mp nothing.symm
      rw [Option.toList_eq_nil_iff.mp none_] at made
      exact ⟨made, more⟩
    · rintro ⟨made, more⟩
      exact ⟨none, [], made, more, rfl⟩

end

end Upload

end Walkthrough
