import Walkthrough.Proofs.Bridge.Request
import Walkthrough.Proofs.Run.Upload

/-!
Contents on their way from a document to the bridge. They are decoded when the files of an upload
are collected and encoded again in the request; since reading accepts canonical text only, the
bridge gets the very text that the document has.
-/
namespace Walkthrough

namespace Upload

variable {directory : String} {base : PathBase} {s : Step}

theorem Stands.isSome_eq {file : UploadFile} {entry : Option Payload}
    (stands : Stands directory base file entry) : entry.isSome = isSource file := by
  have made := ofFile_ok_iff.mpr stands
  cases entry with
  | none => exact (ofFile_none_iff.mp made).symm
  | some payload =>
    cases source : isSource file with
    | true => rfl
    | false => cases (ofFile_none_iff.mpr source).symm.trans made

theorem stands_at {before after : List UploadFile} {file : UploadFile}
    {entries : List (Option Payload)}
    (stand : List.Forall₂ (Stands directory base) (before ++ file :: after) entries) :
    ∃ entry, Stands directory base file entry ∧ ∀ payload, entry = some payload →
      (entries.flatMap Option.toList)[before.countP isSource]? = some payload := by
  induction before generalizing entries with
  | nil =>
    cases stand with
    | @cons _ entry _ _ here rest =>
      refine ⟨entry, here, ?_⟩
      rintro payload rfl
      rfl
  | cons first before ih =>
    cases stand with
    | @cons _ entry _ _ stands rest =>
      obtain ⟨own, here, place⟩ := ih rest
      refine ⟨own, here, ?_⟩
      intro payload is
      rw [List.flatMap_cons, List.countP_cons, ← stands.isSome_eq]
      cases entry with
      | none => exact place payload is
      | some other => exact place payload is

theorem FromFiles.content {payloads : List Payload} (given : FromFiles directory s payloads)
    {before after : List UploadFile} {file : UploadFile} (split : s.files = before ++ file :: after)
    {content : String} (has : file.contentBase64 = some content) :
    ∃ bytes, payloads[before.countP isSource]? =
        some (.content (file.name.getD defaultName) file.mimeType bytes) ∧
      Text.trim content = Base64.text bytes := by
  obtain ⟨entries, stand, rfl⟩ := given
  rw [split] at stand
  obtain ⟨entry, stands, place⟩ := stands_at stand
  cases stands with
  | @content content' bytes has' encoded =>
    obtain rfl := Option.some.inj (has.symm.trans has')
    exact ⟨bytes, place _ rfl, Base64.decode_text_iff.mp (Base64.decode_ok_iff_encode.mpr encoded)⟩
  | path empty => cases has.symm.trans empty
  | nothing empty => cases has.symm.trans empty

theorem content_of_collect {payloads : List Payload} (collected : collect directory s = .ok payloads)
    {before after : List UploadFile} {file : UploadFile} (split : s.files = before ++ file :: after)
    {content : String} (has : file.contentBase64 = some content) :
    ∃ bytes, payloads[before.countP isSource]? =
        some (.content (file.name.getD defaultName) file.mimeType bytes) ∧
      Text.trim content = Base64.text bytes := by
  cases collect_iff.mp collected with
  | files given => exact given.content split has
  | data nothing =>
    -- An upload that falls back on its data has no content.
    obtain ⟨bytes, found, -⟩ := nothing.content split has
    cases found

theorem ofFile_text (directory : String) (base : PathBase) (file : UploadFile)
    (bytes : List UInt8) :
    ofFile directory base { file with contentBase64 := some (Base64.text bytes) } =
      .ok (some (.content (file.name.getD defaultName) file.mimeType bytes)) := by
  have decoded : Base64.decode (trimmed (Base64.text bytes)) = .ok bytes := by
    rw [trimmed, Base64.trim_text]
    exact Base64.decode_text_iff.mpr rfl
  rw [ofFile_content rfl, decoded]
  rfl

def entryOf (given : UploadFile × List UInt8) : UploadFile :=
  { given.1 with contentBase64 := some (Base64.text given.2) }

def payloadOf (given : UploadFile × List UInt8) : Payload :=
  .content (given.1.name.getD defaultName) given.1.mimeType given.2

theorem ofFiles_texts (directory : String) (base : PathBase)
    (given : List (UploadFile × List UInt8)) :
    ofFiles directory base (given.map entryOf) = .ok (given.map payloadOf) := by
  induction given with
  | nil => rfl
  | cons first rest ih =>
    rw [List.map_cons, ofFiles, inTurn_eq_ok_iff]
    exact ⟨_, _, ofFile_text directory base first.1 first.2, ih, rfl⟩

/-- The content of an entry, when the payloads are handed over to the bridge. -/
structure Arrives (payloads : List Payload) (place : Nat) (file : UploadFile) (content : String) :
    Prop where
  decoded : ∃ bytes, payloads[place]? =
      some (.content (file.name.getD defaultName) file.mimeType bytes) ∧
    Base64.decode (Text.trim content).toUTF8.toList = .ok bytes
  /-- The request has it to the letter. -/
  kept : ∀ id t, ∃ items item,
    ((Bridge.Operation.ofCall (.setInputFiles t payloads)).request id).member? "files" =
        some (.array items) ∧ items.length = payloads.length ∧ items[place]? = some item ∧
      item.textAt "buffer" = some (Text.trim content)

structure Conveys (directory : String) (s : Step) : Prop where
  /-- A content arrives at the place that it has among the sources. -/
  arrives : ∀ payloads before file after content, collect directory s = .ok payloads →
    s.files = before ++ file :: after → file.contentBase64 = some content →
      Arrives payloads (before.countP isSource) file content
  /-- The texts of any bytes are collected as these bytes. -/
  collects : ∀ given, given ≠ [] → s.files = given.map entryOf →
    collect directory s = .ok (given.map payloadOf)

theorem conveys_contents (directory : String) (s : Step) : Conveys directory s where
  arrives := by
    intro payloads before file after content collected split has
    obtain ⟨bytes, found, same⟩ := content_of_collect collected split has
    constructor
    case decoded => exact ⟨bytes, found, Base64.decode_text_iff.mpr same⟩
    case kept =>
      intro id t
      have files : ((Bridge.Operation.ofCall (.setInputFiles t payloads)).request id).member?
          "files" = some (.array (payloads.map Payload.toJson)) :=
        Bridge.argument_found (by simp [Bridge.Operation.ofCall, Bridge.Operation.details])
      have item := congrArg (Option.map Payload.toJson) found
      rw [← List.getElem?_map] at item
      obtain ⟨-, -, text, buffer, decoded⟩ :=
        Json.hands_toJson (.content (file.name.getD defaultName) file.mimeType bytes)
      obtain rfl : text = Text.trim content := (Base64.decode_text_iff.mp decoded).trans same.symm
      exact ⟨_, _, files, List.length_map _, item, buffer⟩
  collects := by
    intro given some_ files
    have made := ofFiles_texts directory s.resolveFrom given
    rw [← files] at made
    exact collect_of_payloads made (by simpa using some_)

namespace Sample

def sealed : UploadFile := { name := some "seal", contentBase64 := some " AP8=\n" }

def papers : Step where
  action := .upload
  selector := some "#papers"
  files := [{ path := some "a.txt" }, {}, sealed]

theorem papers_convey :
    collect "/home" papers = .ok [.path "/home/a.txt", .content "seal" none [0, 255]] ∧
      Arrives [.path "/home/a.txt", .content "seal" none [0, 255]] 1 sealed " AP8=\n" := by
  have collected :
      collect "/home" papers = .ok [.path "/home/a.txt", .content "seal" none [0, 255]] := by
    decide +kernel
  have arrives := (conveys_contents "/home" papers).arrives _
    [{ path := some "a.txt" }, {}] sealed [] " AP8=\n" collected rfl rfl
  exact ⟨collected, arrives⟩

end Sample

end Upload

end Walkthrough
