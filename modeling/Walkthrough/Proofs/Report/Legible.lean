import Walkthrough.Proofs.Json.Fields
import Walkthrough.Proofs.Json.InOrder
import Walkthrough.Proofs.Report.RunId
import Walkthrough.Proofs.Report.Timestamp
import Walkthrough.Report.Schema

/-!
Reports that can be read again. A report is read from its own text when its moments have a text of
their own and its numbers fit into words, and nothing else is ever read.
-/
namespace Walkthrough

open Json (Levels Outline Reader Recovers)

section

variable {levels : Levels}

theorem RunId.recovers (r : RunId) :
    Recovers RunId.reader (fun r => .string r.text) levels r := by
  intro o shown
  have text := @Json.recovers_text levels "a UUID string" r.text o shown
  simp only [reader, text, RunId.parse_text, bind, Except.bind]
  rfl

theorem Timestamp.recovers {t : Timestamp} (sound : t.Sound) :
    Recovers Timestamp.reader (fun t => .string t.text) levels t := by
  intro o shown
  have text :=
    @Json.recovers_text levels "an RFC 3339 formatted date and time string" t.text o shown
  simp only [reader, text, Timestamp.parse_text sound, bind, Except.bind]
  rfl

theorem Timestamp.sound_of_read {o : Outline} {t : Timestamp}
    (read : Timestamp.reader levels o = .ok t) : t.Sound := by
  obtain ⟨text, -, read⟩ := Json.bind_eq_ok_iff.mp read
  split at read
  · rename_i parsed
    cases read
    exact sound_of_parse parsed
  · cases read

theorem Status.recovers (s : Status) :
    Recovers (Reader.variant Status.names) Status.write levels s := by
  cases s <;> exact Json.recovers_variant rfl rfl

theorem Outcome.recovers (o : Outcome) :
    Recovers (Reader.variant Outcome.names) Outcome.write levels o := by
  cases o <;> exact Json.recovers_variant rfl rfl

theorem Status.readable (s : Status) : s.write.Readable := by
  cases s <;> exact Json.readable_string _

theorem Outcome.readable (o : Outcome) : o.write.Readable := by
  cases o <;> exact Json.readable_string _

end

def Iteration.Legible (i : Iteration) : Prop := FitsWord i.index

structure StepEntry.Legible (e : StepEntry) : Prop where
  startTime : e.startTime.Sound
  endTime : e.endTime.Sound
  duration : FitsWord e.durationMs
  iterations : ∀ i ∈ e.iterations, i.Legible

structure RunReport.Legible (r : RunReport) : Prop where
  startTime : r.startTime.Sound
  endTime : r.endTime.Sound
  duration : FitsWord r.durationMs
  steps : ∀ e ∈ r.steps, e.Legible

def BatchReport.Legible (r : BatchReport) : Prop := ∀ run ∈ r.runs, run.Legible

section

variable {levels : Levels}

theorem SoftFailure.recovers (allow : levels.Allow 1) (f : SoftFailure) :
    Recovers SoftFailure.schema.read SoftFailure.schema.write levels f := by
  obtain ⟨inner, entered, -⟩ := allow.enter
  exact Json.Schema.recovers (by decide) entered
    (.required (Json.recovers_text _ _) <| .required (Json.recovers_text _ _) .done) rfl

theorem recovers_softFailures (allow : levels.Allow 2) (failures : List SoftFailure) :
    Recovers (Reader.list SoftFailure.schema.read)
      (fun fs => .array (fs.map SoftFailure.schema.write)) levels failures := by
  obtain ⟨inner, entered, left⟩ := allow.enter
  exact Json.recovers_list entered fun f _ => f.recovers left

theorem Iteration.recovers (allow : levels.Allow 3) {i : Iteration} (legible : i.Legible) :
    Recovers Iteration.schema.read Iteration.schema.write levels i := by
  obtain ⟨inner, entered, left⟩ := allow.enter
  exact Json.Schema.recovers (by decide) entered
    (.required (Json.recovers_nat legible) <| .required i.status.recovers <|
      .unlessNone nofun (Json.recovers_optionalText _) rfl <|
      .listOrNothing (recovers_softFailures left _) rfl .done) rfl

theorem StepEntry.recovers (allow : levels.Allow 5) {e : StepEntry} (legible : e.Legible) :
    Recovers StepEntry.schema.read StepEntry.schema.write levels e := by
  obtain ⟨inner, entered, left⟩ := allow.enter
  obtain ⟨innermost, further, least⟩ := left.enter
  have iterations : Recovers (Reader.list Iteration.schema.read)
      (fun is => .array (is.map Iteration.schema.write)) inner e.iterations :=
    Json.recovers_list further fun i member => i.recovers least (legible.iterations i member)
  have text := @Json.recovers_text inner "a string"
  exact Json.Schema.recovers (by decide) entered
    (.required (text _) <| .required (text _) <| .required e.status.recovers <|
      .required (e.startTime.recovers legible.startTime) <|
      .required (e.endTime.recovers legible.endTime) <|
      .required (Json.recovers_nat legible.duration) <|
      .unlessNone nofun (Json.recovers_optionalText _) rfl <|
      .listOrNothing (recovers_softFailures (left.mono (by decide)) _) rfl <|
      .listOrNothing iterations rfl .done) rfl

theorem RunReport.recovers (allow : levels.Allow 7) {r : RunReport} (legible : r.Legible) :
    Recovers RunReport.schema.read RunReport.schema.write levels r := by
  obtain ⟨inner, entered, left⟩ := allow.enter
  obtain ⟨innermost, further, least⟩ := left.enter
  have steps : Recovers (Reader.list StepEntry.schema.read)
      (fun es => .array (es.map StepEntry.schema.write)) inner r.steps :=
    Json.recovers_list further fun e member => e.recovers least (legible.steps e member)
  exact Json.Schema.recovers (by decide) entered
    (.required r.runId.recovers <| .required (Json.recovers_text _ _) <|
      .required r.status.recovers <| .required r.outcome.recovers <|
      .required (r.startTime.recovers legible.startTime) <|
      .required (r.endTime.recovers legible.endTime) <|
      .required (Json.recovers_nat legible.duration) <| .required steps .done) rfl

theorem BatchReport.recovers (allow : levels.Allow 9) {r : BatchReport} (legible : r.Legible) :
    Recovers BatchReport.schema.read BatchReport.schema.write levels r := by
  obtain ⟨inner, entered, left⟩ := allow.enter
  obtain ⟨innermost, further, least⟩ := left.enter
  have runs : Recovers (Reader.list RunReport.schema.read)
      (fun rs => .array (rs.map RunReport.schema.write)) inner r.runs :=
    Json.recovers_list further fun run member => run.recovers least (legible run member)
  exact Json.Schema.recovers (by decide) entered
    (.required r.status.recovers <| .required runs .done) rfl

end

section

variable {levels : Levels}

theorem Iteration.legible_of_read {o : Outline} {i : Iteration}
    (read : Iteration.schema.read levels o = .ok i) : i.Legible := by
  have keeps (inner : Levels) : ∀ f ∈ Iteration.schema.fields, f.Keeps inner Legible := by
    simp only [schema, List.forall_mem_cons]
    refine ⟨?index, ?status, ?error, ?softFailures, nofun⟩
    case index => exact Json.keeps_of_set (fun _ => rfl) fun _ _ _ read _ => Json.nat_eq_ok read
    all_goals exact Json.keeps_of_set (fun _ => rfl) fun _ _ _ _ held => held
  have blank : FitsWord 0 := by decide
  exact Json.Schema.holds_of_read blank keeps read

theorem Timestamp.sound_default : (default : Timestamp).Sound :=
  ⟨by decide, nofun⟩

theorem StepEntry.legible_of_read {o : Outline} {e : StepEntry}
    (read : StepEntry.schema.read levels o = .ok e) : e.Legible := by
  have keeps (inner : Levels) : ∀ f ∈ StepEntry.schema.fields, f.Keeps inner Legible := by
    simp only [schema, List.forall_mem_cons]
    refine ⟨?title, ?action, ?status, ?startTime, ?endTime, ?durationMs, ?error, ?softFailures,
      ?iterations, nofun⟩
    case startTime =>
      exact Json.keeps_of_set (fun _ => rfl) fun _ _ _ read held =>
        { held with startTime := Timestamp.sound_of_read read }
    case endTime =>
      exact Json.keeps_of_set (fun _ => rfl) fun _ _ _ read held =>
        { held with endTime := Timestamp.sound_of_read read }
    case durationMs =>
      exact Json.keeps_of_set (fun _ => rfl) fun _ _ _ read held =>
        { held with duration := Json.nat_eq_ok read }
    case iterations =>
      refine Json.keeps_of_set (fun _ => rfl) fun _ _ _ read held =>
        { held with iterations := fun i member => ?_ }
      obtain ⟨_, -, each⟩ := Json.list_eq_ok read
      obtain ⟨_, read⟩ := each i member
      exact Iteration.legible_of_read read
    all_goals exact Json.keeps_of_set (fun _ => rfl) fun _ _ _ _ held => { held with }
  have blank : StepEntry.schema.blank.Legible :=
    ⟨Timestamp.sound_default, Timestamp.sound_default, by decide, nofun⟩
  exact Json.Schema.holds_of_read blank keeps read

theorem RunReport.legible_of_read {o : Outline} {r : RunReport}
    (read : RunReport.schema.read levels o = .ok r) : r.Legible := by
  have keeps (inner : Levels) : ∀ f ∈ RunReport.schema.fields, f.Keeps inner Legible := by
    simp only [schema, List.forall_mem_cons]
    refine ⟨?runId, ?testCase, ?status, ?outcome, ?startTime, ?endTime, ?durationMs, ?steps, nofun⟩
    case startTime =>
      exact Json.keeps_of_set (fun _ => rfl) fun _ _ _ read held =>
        { held with startTime := Timestamp.sound_of_read read }
    case endTime =>
      exact Json.keeps_of_set (fun _ => rfl) fun _ _ _ read held =>
        { held with endTime := Timestamp.sound_of_read read }
    case durationMs =>
      exact Json.keeps_of_set (fun _ => rfl) fun _ _ _ read held =>
        { held with duration := Json.nat_eq_ok read }
    case steps =>
      refine Json.keeps_of_set (fun _ => rfl) fun _ _ _ read held =>
        { held with steps := fun e member => ?_ }
      obtain ⟨_, -, each⟩ := Json.list_eq_ok read
      obtain ⟨_, read⟩ := each e member
      exact StepEntry.legible_of_read read
    all_goals exact Json.keeps_of_set (fun _ => rfl) fun _ _ _ _ held => { held with }
  have blank : RunReport.schema.blank.Legible :=
    ⟨Timestamp.sound_default, Timestamp.sound_default, by decide, nofun⟩
  exact Json.Schema.holds_of_read blank keeps read

theorem BatchReport.legible_of_read {o : Outline} {r : BatchReport}
    (read : BatchReport.schema.read levels o = .ok r) : r.Legible := by
  have keeps (inner : Levels) : ∀ f ∈ BatchReport.schema.fields, f.Keeps inner Legible := by
    simp only [schema, List.forall_mem_cons]
    refine ⟨?status, ?runs, nofun⟩
    case status => exact Json.keeps_of_set (fun _ => rfl) fun _ _ _ _ held => held
    case runs =>
      refine Json.keeps_of_set (fun _ => rfl) fun _ _ _ read _ run member => ?_
      obtain ⟨_, -, each⟩ := Json.list_eq_ok read
      obtain ⟨_, read⟩ := each run member
      exact RunReport.legible_of_read read
  have blank : BatchReport.schema.blank.Legible := nofun
  exact Json.Schema.holds_of_read blank keeps read

end

theorem SoftFailure.readable (f : SoftFailure) : (SoftFailure.schema.write f).Readable := by
  refine Json.readable_write ?_
  simp only [schema, List.forall_mem_cons]
  exact ⟨.required (Json.readable_string _), .required (Json.readable_string _), nofun⟩

theorem readable_error {α : Type} {get : α → Option String} {set : Option String → α → α} {a : α} :
    (errorField get set).Readable a :=
  .optional fun _ _ => Json.readable_string _

theorem readable_softFailures {α : Type} {get : α → List SoftFailure}
    {set : List SoftFailure → α → α} {a : α} : (softFailuresField get set).Readable a :=
  .listOrNothing fun f _ => f.readable

theorem Iteration.readable {i : Iteration} (legible : i.Legible) :
    (Iteration.schema.write i).Readable := by
  refine Json.readable_write ?_
  simp only [schema, List.forall_mem_cons]
  exact ⟨.required (Json.readable_ofNat legible), .required i.status.readable, readable_error,
    readable_softFailures, nofun⟩

theorem StepEntry.readable {e : StepEntry} (legible : e.Legible) :
    (StepEntry.schema.write e).Readable := by
  refine Json.readable_write ?_
  simp only [schema, List.forall_mem_cons]
  exact ⟨.required (Json.readable_string _), .required (Json.readable_string _),
    .required e.status.readable, .required (Json.readable_string _),
    .required (Json.readable_string _), .required (Json.readable_ofNat legible.duration),
    readable_error, readable_softFailures,
    .listOrNothing fun i member => i.readable (legible.iterations i member), nofun⟩

theorem RunReport.readable {r : RunReport} (legible : r.Legible) : r.toJson.Readable := by
  refine Json.readable_write ?_
  simp only [schema, List.forall_mem_cons]
  exact ⟨.required (Json.readable_string _), .required (Json.readable_string _),
    .required r.status.readable, .required r.outcome.readable, .required (Json.readable_string _),
    .required (Json.readable_string _), .required (Json.readable_ofNat legible.duration),
    .required (Json.readable_list fun e member => e.readable (legible.steps e member)), nofun⟩

theorem BatchReport.readable {r : BatchReport} (legible : r.Legible) : r.toJson.Readable := by
  refine Json.readable_write ?_
  simp only [schema, List.forall_mem_cons]
  exact ⟨.required r.status.readable,
    .required (Json.readable_list fun run member => run.readable (legible run member)), nofun⟩

/-- What is written is read as what it was, compact or indented, with the same answer to whether it
has passed, and what is read so is written alike. -/
structure Restored {α : Type} (parse : String → Except Json.ReadFault α) (toJson : α → Json)
    (passed : α → Bool) (a : α) : Prop where
  compact : parse (toJson a).compact = .ok a
  indented : parse (toJson a).indented = .ok a
  same : ∀ text other, text = (toJson a).compact ∨ text = (toJson a).indented →
    parse text = .ok other → other = a ∧ passed other = passed a ∧
      (toJson other).compact = (toJson a).compact ∧
      (toJson other).indented = (toJson a).indented

theorem Restored.of_recovers {α : Type} {read : Reader α} {toJson : α → Json} {passed : α → Bool}
    {a : α} (readable : (toJson a).Readable)
    (recovers : Recovers read toJson (some Json.nestingLimit) a) :
    Restored (Reader.run read) toJson passed a := by
  have compact := Json.run_compact readable recovers
  have indented := Json.run_indented readable recovers
  refine ⟨compact, indented, fun text other either parsed => ?_⟩
  obtain rfl : other = a := by
    rcases either with rfl | rfl
    · exact Except.ok.inj (parsed.symm.trans compact)
    · exact Except.ok.inj (parsed.symm.trans indented)
  exact ⟨rfl, rfl, rfl, rfl⟩

theorem allow_nestingLimit {depth : Nat} (shallow : depth < Json.nestingLimit) :
    Levels.Allow (some Json.nestingLimit) depth := by
  rintro _ ⟨⟩
  exact shallow

namespace RunReport

def Restored : RunReport → Prop := Walkthrough.Restored parse toJson passed

theorem Legible.restored {r : RunReport} (legible : r.Legible) : r.Restored :=
  .of_recovers (readable legible) (r.recovers (allow_nestingLimit (by decide)) legible)

theorem restored_of_parse {text : String} {r : RunReport} (parsed : parse text = .ok r) :
    r.Restored := by
  obtain ⟨o, read⟩ := Json.run_eq_ok parsed
  exact (legible_of_read read).restored

end RunReport

namespace BatchReport

def Restored : BatchReport → Prop := Walkthrough.Restored parse toJson passed

theorem Legible.restored {r : BatchReport} (legible : r.Legible) : r.Restored :=
  .of_recovers (readable legible) (r.recovers (allow_nestingLimit (by decide)) legible)

theorem restored_of_parse {text : String} {r : BatchReport} (parsed : parse text = .ok r) :
    r.Restored := by
  obtain ⟨o, read⟩ := Json.run_eq_ok parsed
  exact (legible_of_read read).restored

end BatchReport

/-- Fields of iterations and entries that have nothing in them are left out, and what is left out
has nothing in it when it is read. -/
structure ReportsOmit : Prop where
  iterationError : Iteration.schema.Omits "error" (·.error = none)
  iterationSoftFailures : Iteration.schema.Omits "soft_failures" (·.softFailures = [])
  error : StepEntry.schema.Omits "error" (·.error = none)
  softFailures : StepEntry.schema.Omits "soft_failures" (·.softFailures = [])
  iterations : StepEntry.schema.Omits "iterations" (·.iterations = [])

theorem errorField_write {α : Type} {get : α → Option String} {set : Option String → α → α}
    (a : α) : (errorField get set).write a = none ↔ get a = none :=
  Option.map_eq_none_iff

theorem listOrNothing_write {α β : Type} {name : String} {read : Reader β} {write : β → Json}
    {get : α → List β} {set : List β → α → α} (a : α) :
    (Json.RecordField.listOrNothing name read write get set).write a = none ↔ get a = [] := by
  simp [Json.RecordField.listOrNothing]

theorem reports_omit : ReportsOmit := by
  refine ⟨.of_field (by decide) rfl errorField_write rfl ?_,
    .of_field (by decide) rfl listOrNothing_write rfl ?_,
    .of_field (by decide) rfl errorField_write rfl ?_,
    .of_field (by decide) rfl listOrNothing_write rfl ?_,
    .of_field (by decide) rfl listOrNothing_write rfl ?_⟩
  all_goals
    simp only [Iteration.schema, StepEntry.schema, List.forall_mem_cons]
    and_intros
    -- What the other fields are set to leaves this one as it is.
    all_goals first
      | exact fun other => absurd rfl other
      | exact fun _ _ => Json.keeps_of_set (fun _ => rfl) fun _ _ _ _ held => held
      | exact nofun

end Walkthrough
