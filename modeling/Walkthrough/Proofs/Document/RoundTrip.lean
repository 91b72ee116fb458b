import Walkthrough.Document.Schema
import Walkthrough.Proofs.Json.Layout
import Walkthrough.Proofs.Json.Record
import Walkthrough.Proofs.Number.Nearest

/-!
Test cases that are written and read again. Whatever text a case was read from, and whichever of its
fields were left out, null or given by position there, the text that it is written as is read as the
same case, and written as the same text.
-/
namespace Walkthrough

open Json (Recovers Retraces Levels Outline Reader)

/-- Values that are read from names, some of which are known: a name is kept as it is, and a known
one is taken for what it stands for. -/
structure Json.Reader.KeepsNames {α : Type} (read : Reader α) (name : α → String)
    (unknown : String → α) : Prop where
  written : ∀ levels o, (read levels o).map name = Reader.string levels o
  known : ∀ {levels o a b}, read levels o = .ok a → name a = name b → (∀ n, b ≠ unknown n) → a = b

theorem name_lookup {α : Type} {known : List (String × α)} {name : α → String}
    {unknown : String → α} (listed : ∀ entry ∈ known, name entry.2 = entry.1)
    (kept : ∀ n, name (unknown n) = n) (n : String) :
    name ((known.lookup n).getD (unknown n)) = n := by
  cases found : known.lookup n with
  | none => exact kept n
  | some a =>
    obtain ⟨before, after, rfl, -⟩ := List.lookup_eq_some_iff.mp found
    exact listed (n, a) (by simp)

theorem Action.name_ofName (n : String) : (Action.ofName n).name = n :=
  name_lookup (by decide) (fun _ => rfl) n

theorem Strategy.name_ofName (n : String) : (Strategy.ofName n).name = n :=
  name_lookup (by decide) (fun _ => rfl) n

theorem ValidationKind.name_ofName (n : String) : (ValidationKind.ofName n).name = n :=
  name_lookup (by decide) (fun _ => rfl) n

theorem Action.ofName_name {a : Action} (known : ∀ n, a ≠ .unknown n) : ofName a.name = a := by
  cases a with
  | unknown n => exact absurd rfl (known n)
  | _ => decide

theorem Strategy.ofName_name {s : Strategy} (known : ∀ n, s ≠ .unknown n) : ofName s.name = s := by
  cases s with
  | unknown n => exact absurd rfl (known n)
  | _ => decide

theorem ValidationKind.ofName_name {k : ValidationKind} (known : ∀ n, k ≠ .unknown n) :
    ofName k.name = k := by
  cases k with
  | unknown n => exact absurd rfl (known n)
  | _ => decide

theorem keepsNames_of_ofName {α : Type} {ofName : String → α} {name : α → String}
    {unknown : String → α} (kept : ∀ n, name (ofName n) = n)
    (known : ∀ {a}, (∀ n, a ≠ unknown n) → ofName (name a) = a) :
    Reader.KeepsNames (fun levels o => (Reader.string levels o).map ofName) name unknown where
  written levels o := by
    cases Reader.string levels o with
    | error fault => rfl
    | ok n => exact congrArg Except.ok (kept n)
  known {levels o a b} read same given := by
    obtain ⟨n, -, rfl⟩ := Json.map_eq_ok_iff.mp read
    rw [kept] at same
    rw [same, known given]

theorem Action.reader_keepsNames : Action.reader.KeepsNames Action.name .unknown :=
  keepsNames_of_ofName Action.name_ofName Action.ofName_name

theorem Strategy.reader_keepsNames : Strategy.reader.KeepsNames Strategy.name .unknown :=
  keepsNames_of_ofName Strategy.name_ofName Strategy.ofName_name

theorem ValidationKind.reader_keepsNames :
    ValidationKind.reader.KeepsNames ValidationKind.name .unknown :=
  keepsNames_of_ofName ValidationKind.name_ofName ValidationKind.ofName_name

section

variable {levels : Levels}

theorem returns_action : Action.reader.Returns (fun a => .string a.name) levels :=
  Json.returns_named Action.name_ofName

theorem returns_strategy : Strategy.reader.Returns (fun s => .string s.name) levels :=
  Json.returns_named Strategy.name_ofName

theorem returns_kind : ValidationKind.reader.Returns (fun k => .string k.name) levels :=
  Json.returns_named ValidationKind.name_ofName

theorem real_finite {o : Outline} {x : Binary64} (read : Reader.real levels o = .ok x) :
    ∃ negative m, x = .finite negative m := by
  unfold Reader.real at read
  split at read
  · obtain ⟨n, -, read⟩ := Json.bind_eq_ok_iff.mp read
    cases read
    exact n.toBinary64_finite
  · exact absurd read Json.refuse_ne_ok

theorem returns_real : Reader.real.Returns Json.ofBinary64 levels where
  recovers {o x} read := by
    obtain ⟨negative, m, rfl⟩ := real_finite read
    rintro _ ⟨⟩
    rfl
  null {o x} read none := by
    obtain ⟨negative, m, rfl⟩ := real_finite read
    cases none

theorem recovers_resolveFrom (base : PathBase) :
    Recovers (Reader.variant PathBase.names) PathBase.write levels base := by
  cases base with
  | workingDirectory => exact Json.recovers_variant rfl rfl
  | none => exact Json.recovers_variant rfl rfl

end

theorem UploadFile.returns (levels : Levels) :
    UploadFile.schema.read.Returns UploadFile.schema.write levels := by
  refine Json.Schema.returns (P := fun _ _ => True) (by decide) (fun _ _ => trivial)
    (fun _ _ _ _ _ _ _ _ _ => trivial) fun inner f _ => ?_
  have text := @Json.recovers_optionalText inner
  exact .optional (text _) rfl <| .optional (text _) rfl <| .optional (text _) rfl <|
    .optional (text _) rfl .done

structure Validation.Kept (levels : Levels) (v : Validation) : Prop where
  kind : Recovers ValidationKind.reader (fun k => .string k.name) levels v.kind
  strategy : Recovers (Reader.optional Strategy.reader) (Json.ofOption fun s => .string s.name)
    levels v.strategy
  nth : Recovers (Reader.optional Reader.signed) (Json.ofOption Json.ofInt) levels v.nth
  data : Recovers (Reader.optional Reader.value) (Json.ofOption id) levels v.data
  options : Recovers (Reader.optional Reader.value) (Json.ofOption id) levels v.options

theorem Validation.keeps (levels : Levels) :
    ∀ f ∈ Validation.schema.fields, f.Keeps levels (Validation.Kept levels) := by
  have strategy := (@returns_strategy levels).optional
  have index := (@Json.returns_signed levels).optional
  have value := (@Json.returns_value levels).optional
  simp only [schema, List.forall_mem_cons]
  refine ⟨?kind, ?selector, ?strategy, ?nth, ?data, ?message, ?soft, ?attributeName,
    ?cssProperty, ?customName, ?options, nofun⟩
  case kind =>
    exact Json.keeps_of_set (fun _ => rfl) fun _ _ _ read held =>
      { held with kind := returns_kind.recovers read }
  case strategy =>
    exact Json.keeps_of_set (fun _ => rfl) fun _ _ _ read held =>
      { held with strategy := strategy.recovers read }
  case nth =>
    exact Json.keeps_of_set (fun _ => rfl) fun _ _ _ read held =>
      { held with nth := index.recovers read }
  case data =>
    exact Json.keeps_of_set (fun _ => rfl) fun _ _ _ read held =>
      { held with data := value.recovers read }
  case options =>
    exact Json.keeps_of_set (fun _ => rfl) fun _ _ _ read held =>
      { held with options := value.recovers read }
  all_goals exact Json.keeps_of_set (fun _ => rfl) fun _ _ _ _ held => { held with }

theorem Validation.returns (levels : Levels) :
    Validation.schema.read.Returns Validation.schema.write levels := by
  refine Json.Schema.returns (P := Validation.Kept) (by decide) (fun inner _ => ?blank)
    (fun inner _ => Validation.keeps inner) fun inner v kept => ?retraces
  case blank =>
    constructor
    · exact Json.recovers_named ValidationKind.name_ofName ""
    all_goals exact Json.recovers_none
  case retraces =>
    have text := @Json.recovers_optionalText inner
    exact .required kept.kind <| .optional (text _) rfl <| .optional kept.strategy rfl <|
      .optional kept.nth rfl <| .optional kept.data rfl <| .optional (text _) rfl <|
      .withDefault (Json.recovers_bool _) <| .optional (text _) rfl <| .optional (text _) rfl <|
      .optional (text _) rfl <| .optional kept.options rfl .done

structure Step.Kept (levels : Levels) (s : Step) : Prop where
  action : Recovers Action.reader (fun a => .string a.name) levels s.action
  strategy : Recovers (Reader.optional Strategy.reader) (Json.ofOption fun s => .string s.name)
    levels s.strategy
  data : Recovers (Reader.optional Reader.value) (Json.ofOption id) levels s.data
  nth : Recovers (Reader.optional Reader.signed) (Json.ofOption Json.ofInt) levels s.nth
  waitTime : Recovers (Reader.optional (Reader.nat "u64")) (Json.ofOption Json.ofNat) levels
    s.waitTime
  options : Recovers (Reader.optional Reader.value) (Json.ofOption id) levels s.options
  files : Recovers (Reader.list UploadFile.schema.read)
    (fun fs => .array (fs.map UploadFile.schema.write)) levels s.files
  validations : Recovers (Reader.list Validation.schema.read)
    (fun vs => .array (vs.map Validation.schema.write)) levels s.validations

theorem Step.keeps (levels : Levels) :
    ∀ f ∈ Step.schema.fields, f.Keeps levels (Step.Kept levels) := by
  have strategy := (@returns_strategy levels).optional
  have index := (@Json.returns_signed levels).optional
  have count := (@Json.returns_nat levels "u64").optional
  have value := (@Json.returns_value levels).optional
  simp only [schema, List.forall_mem_cons]
  refine ⟨?stepName, ?action, ?selector, ?strategy, ?path, ?data, ?nth, ?waitTime, ?iterate,
    ?customName, ?options, ?files, ?resolveFrom, ?clearFirst, ?validations, nofun⟩
  case action =>
    exact Json.keeps_of_set (fun _ => rfl) fun _ _ _ read held =>
      { held with action := returns_action.recovers read }
  case strategy =>
    exact Json.keeps_of_set (fun _ => rfl) fun _ _ _ read held =>
      { held with strategy := strategy.recovers read }
  case data =>
    exact Json.keeps_of_set (fun _ => rfl) fun _ _ _ read held =>
      { held with data := value.recovers read }
  case nth =>
    exact Json.keeps_of_set (fun _ => rfl) fun _ _ _ read held =>
      { held with nth := index.recovers read }
  case waitTime =>
    exact Json.keeps_of_set (fun _ => rfl) fun _ _ _ read held =>
      { held with waitTime := count.recovers read }
  case options =>
    exact Json.keeps_of_set (fun _ => rfl) fun _ _ _ read held =>
      { held with options := value.recovers read }
  case files =>
    exact Json.keeps_of_set (fun _ => rfl) fun _ _ _ read held =>
      { held with files :=
        (Json.Reader.Returns.list fun inner _ => UploadFile.returns inner).recovers read }
  case validations =>
    exact Json.keeps_of_set (fun _ => rfl) fun _ _ _ read held =>
      { held with validations :=
        (Json.Reader.Returns.list fun inner _ => Validation.returns inner).recovers read }
  all_goals exact Json.keeps_of_set (fun _ => rfl) fun _ _ _ _ held => { held with }

/-- A step is written with its list of validations, be it empty, so there must be a level of nesting
for the list. -/
theorem Step.returns {levels : Levels}
    (room : ∀ inner, Reader.enter levels = .ok inner → ∃ deeper, Reader.enter inner = .ok deeper) :
    Step.schema.read.Returns Step.schema.write levels := by
  refine Json.Schema.returns (P := Step.Kept) (by decide) (fun inner entered => ?blank)
    (fun inner _ => Step.keeps inner) fun inner s kept => ?retraces
  case blank =>
    obtain ⟨deeper, entered⟩ := room inner entered
    constructor
    case action => exact Json.recovers_named Action.name_ofName ""
    case files => exact Json.recovers_list entered fun _ member => absurd member List.not_mem_nil
    case validations =>
      exact Json.recovers_list entered fun _ member => absurd member List.not_mem_nil
    all_goals exact Json.recovers_none
  case retraces =>
    have text := @Json.recovers_optionalText inner
    have bool := @Json.recovers_bool inner
    exact .optional (text _) rfl <| .required kept.action <| .optional (text _) rfl <|
      .optional kept.strategy rfl <| .optional (text _) rfl <| .optional kept.data rfl <|
      .optional kept.nth rfl <| .optional kept.waitTime rfl <| .withDefault (bool _) <|
      .optional (text _) rfl <| .optional kept.options rfl <| .listOrNothing kept.files rfl <|
      .withDefault (recovers_resolveFrom _) <| .withDefault (bool _) <|
      .withDefault kept.validations .done

/-- What a case that was read holds besides text and flags is given back. -/
structure TestCase.Kept (levels : Levels) (c : TestCase) : Prop where
  testOrder : Recovers (Reader.optional Reader.real) (Json.ofOption Json.ofBinary64) levels
    c.testOrder
  steps : Recovers (Reader.list Step.schema.read) (fun ss => .array (ss.map Step.schema.write))
    levels c.steps

namespace TestCase

theorem steps_returns {levels : Levels}
    (within : Reader.enter (some Json.nestingLimit) = .ok levels) :
    (Reader.list Step.schema.read).Returns (fun ss => .array (ss.map Step.schema.write))
      levels := by
  cases within
  refine Json.Reader.Returns.list fun inner entered => Step.returns fun deeper further => ?_
  cases entered
  cases further
  exact ⟨_, rfl⟩

theorem keeps {levels : Levels} (within : Reader.enter (some Json.nestingLimit) = .ok levels) :
    ∀ f ∈ schema.fields, f.Keeps levels (Kept levels) := by
  have real := (@returns_real levels).optional
  have steps := steps_returns within
  simp only [schema, List.forall_mem_cons]
  refine ⟨?description, ?enabled, ?testOrder, ?product, ?steps, nofun⟩
  case testOrder =>
    exact Json.keeps_of_set (fun _ => rfl) fun _ _ _ read held =>
      { held with testOrder := real.recovers read }
  case steps =>
    exact Json.keeps_of_set (fun _ => rfl) fun _ _ _ read held =>
      { held with steps := steps.recovers read }
  all_goals exact Json.keeps_of_set (fun _ => rfl) fun _ _ _ _ held => { held with }

theorem returns : schema.read.Returns schema.write (some Json.nestingLimit) := by
  refine Json.Schema.returns (P := Kept) (by decide) (fun inner entered => ?blank)
    (fun inner entered => keeps entered) fun inner c kept => ?retraces
  case blank =>
    cases entered
    exact ⟨Json.recovers_none,
      Json.recovers_list rfl fun _ member => absurd member List.not_mem_nil⟩
  case retraces =>
    have text := @Json.recovers_optionalText inner
    exact .required (Json.recovers_text _ _) <| .withDefault (Json.recovers_bool _) <|
      .optional kept.testOrder rfl <| .optional (text _) rfl <| .required kept.steps .done

/-- The text of a case that was read is read as the case. Whole numbers are known to be read from
their own text; that the other numbers of the case are is left as an assumption on how numbers are
printed. -/
theorem round_trip {text : String} {c : TestCase} (parsed : parse text = .ok c)
    (reals : ∀ negative size, .real negative size ∈ c.toJson.numbers →
      (JsonNumber.real negative size).ReadsBack) :
    parse c.toJson.compact = .ok c ∧
    (∀ again, parse c.toJson.compact = .ok again →
      again.toJson.compact = c.toJson.compact) ∧
    Action.reader.KeepsNames Action.name .unknown ∧
    Strategy.reader.KeepsNames Strategy.name .unknown ∧
    ValidationKind.reader.KeepsNames ValidationKind.name .unknown := by
  have numbers : ∀ n ∈ c.toJson.numbers, n.ReadsBack := by
    intro n member
    cases n with
    | whole n fits => exact Json.readsBack_whole n fits
    | real negative size => exact reals negative size member
  have again : parse c.toJson.compact = .ok c := by
    obtain ⟨o, read⟩ := Json.run_eq_ok parsed
    exact Json.run_compact numbers (returns.recovers read)
  refine ⟨again, fun other same => ?_, Action.reader_keepsNames, Strategy.reader_keepsNames,
    ValidationKind.reader_keepsNames⟩
  cases again.symm.trans same
  rfl

end TestCase

namespace Sample

/-- A case with a number that is not whole, names that are not known, a step without its optional
fields and a validation given by position. -/
def leapText : String :=
  "\x7b\"testOrder\":1.5,\"testSteps\":[\x7b\"action\":\"leap\",\"selectorType\":\"xpath\"," ++
    "\"data\":[1,null],\"validations\":[[\"toGlow\"]]\x7d],\"description\":\"d\",\"note\":0\x7d"

def oneAndHalf : Magnitude := ⟨6755399441055744, 1022, by decide⟩

theorem leapText_parsed : ∃ c, TestCase.parse leapText = .ok c ∧
    c.toJson.numbers = [.real false oneAndHalf, .whole 1 (by decide)] ∧
    c.steps.map (·.action) = [.unknown "leap"] := by
  have found : ((TestCase.parse leapText).toOption.map fun c =>
      (c.toJson.numbers, c.steps.map (·.action))) =
      some ([.real false oneAndHalf, .whole 1 (by decide)], [.unknown "leap"]) := by
    decide +kernel
  cases parsed : TestCase.parse leapText with
  | error fault =>
    rw [parsed] at found
    cases found
  | ok c =>
    rw [parsed] at found
    exact ⟨c, rfl, Prod.mk.inj (Option.some.inj found)⟩

theorem leap_round_trip : ∃ c, TestCase.parse leapText = .ok c ∧
    (∀ negative size, .real negative size ∈ c.toJson.numbers →
      (JsonNumber.real negative size).ReadsBack) ∧
    TestCase.parse c.toJson.compact = .ok c ∧ c.steps.map (·.action) = [.unknown "leap"] := by
  obtain ⟨c, parsed, numbers, actions⟩ := leapText_parsed
  have reals : ∀ negative size, .real negative size ∈ c.toJson.numbers →
      (JsonNumber.real negative size).ReadsBack := by
    intro negative size member
    rw [numbers] at member
    simp only [List.mem_cons, List.not_mem_nil, reduceCtorEq, or_false] at member
    rw [member]
    decide +kernel
  exact ⟨c, parsed, reals, (TestCase.round_trip parsed reals).1, actions⟩

end Sample

end Walkthrough
