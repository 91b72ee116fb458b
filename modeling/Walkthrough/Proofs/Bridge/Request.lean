import Mathlib.Data.List.Forall2
import Walkthrough.Bridge.Operation
import Walkthrough.Proofs.Json.InOrder
import Walkthrough.Proofs.Json.Members
import Walkthrough.Proofs.Json.SingleLine
import Walkthrough.Proofs.Text.Base64Text

/-!
What a request says. It is a single line, whatever texts and values it carries, and who reads the
line gets the number, the name and the arguments of the operation, each as it was given.
-/
namespace Walkthrough

namespace Json

def textAt (j : Json) (name : String) : Option String := (j.member? name).bind string?

def countAt (j : Json) (name : String) : Option Nat := (j.member? name).bind nat?

def realAt (j : Json) (name : String) : Option Binary64 := (j.member? name).bind binary64?

/-- The binary64 numbers in the value are read as they are written. -/
def RealsReadBack (j : Json) : Prop := ∀ negative size,
  JsonNumber.real negative size ∈ j.numbers → (JsonNumber.real negative size).ReadsBack

theorem RealsReadBack.all {j : Json} (reals : j.RealsReadBack) : ∀ n ∈ j.numbers, n.ReadsBack := by
  intro n member
  cases n with
  | whole n fits => exact readsBack_whole n fits
  | real negative size => exact reals negative size member

theorem nat?_ofNat {n : Nat} (fits : FitsWord n) : (Json.ofNat n).nat? = some n := by
  rw [ofNat_of_fits fits, nat?, if_pos (by omega), Int.toNat_natCast]

theorem inOrder_ofNat (n : Nat) : InOrder (.ofNat n) := by
  unfold Json.ofNat
  split
  · exact .number _
  · split
    · exact .number _
    · exact .null

theorem inOrder_ofBinary64 (x : Binary64) : InOrder (.ofBinary64 x) := by
  cases x with
  | finite negative size => exact .number _
  | infinite negative => exact .null
  | nan => exact .null

theorem inOrder_ofOption (s : Option String) : InOrder (.ofOption Json.string s) := by
  cases s with
  | none => exact .null
  | some s => exact .string s

end Json

def Locator.kind : Locator → String
  | .selector _ => "selector"
  | .testId _ => "testId"

def Locator.value : Locator → String
  | .selector text => text
  | .testId id => id

namespace Json

/-- The object has the target: its locator's kind and value, and its index if it has one. -/
def AimsAt (j : Json) (t : Target) : Prop := ∃ target locator,
  j.member? "target" = some target ∧ target.member? "locator" = some locator ∧
    locator.textAt "kind" = some t.locator.kind ∧ locator.textAt "value" = some t.locator.value ∧
      (t.nth = none → target.member? "nth" = none) ∧
        ∀ n, t.nth = some n → FitsWord n → target.countAt "nth" = some n

def Hands (j : Json) : Payload → Prop
  | .path file => j.textAt "path" = some file
  | .content name mimeType bytes => j.textAt "name" = some name ∧ j.textAt "mimeType" = mimeType ∧
      ∃ text, j.textAt "buffer" = some text ∧ Base64.decode text.toUTF8.toList = .ok bytes

theorem aimsAt_toJson {j : Json} {t : Target} (has : j.member? "target" = some t.toJson) :
    j.AimsAt t := by
  refine ⟨t.toJson, t.locator.toJson, has, rfl, ?_, ?_, ?_, ?_⟩
  · cases t.locator <;> rfl
  · cases t.locator <;> rfl
  · intro whole
    simp only [Target.toJson, whole]
    rfl
  · intro n one fits
    have found : t.toJson.member? "nth" = some (Json.ofNat n) := by
      simp only [Target.toJson, one]
      rfl
    rw [countAt, found, Option.bind_some, nat?_ofNat fits]

theorem hands_toJson (payload : Payload) : payload.toJson.Hands payload := by
  cases payload with
  | path file => rfl
  | content name mimeType bytes =>
    have member (key : String) := member?_objectOf [("name", .string name),
      ("mimeType", Json.ofOption Json.string mimeType), ("buffer", .string (Base64.text bytes))] key
    refine ⟨?_, ?_, Base64.text bytes, ?_, Base64.decode_text_iff.mpr rfl⟩
    · rw [textAt, Payload.toJson, member]
      rfl
    · rw [textAt, Payload.toJson, member]
      cases mimeType <;> rfl
    · rw [textAt, Payload.toJson, member]
      rfl

theorem inOrder_target (t : Target) : InOrder t.toJson := by
  have locator : InOrder t.locator.toJson := by
    have before : "kind" < "value" := by decide
    cases t.locator <;>
      exact .object (List.pairwise_pair.mpr before) (by simp [InOrder.string])
  unfold Target.toJson
  cases t.nth with
  | none => exact .object (List.pairwise_singleton _ _) (by simp [locator])
  | some n =>
    refine .object ?_ (by simp [locator, inOrder_ofNat])
    have before : "locator" < "nth" := by decide
    exact List.pairwise_pair.mpr before

theorem inOrder_payload (payload : Payload) : InOrder payload.toJson := by
  cases payload with
  | path file => exact .objectOf (by simp [InOrder.string])
  | content name mimeType bytes =>
    exact .objectOf (by simp [InOrder.string, inOrder_ofOption])

end Json

namespace Call

def values : Call → List Json
  | .goto _ o | .fill _ _ o | .type _ _ o | .click _ o | .hover _ o | .press _ _ o => o.toList
  | .evaluate _ arg => [arg]
  | _ => []

/-- The objects that a call carries have their members in order, as all that were read have. -/
def InOrder (c : Call) : Prop := ∀ j ∈ c.values, j.InOrder

/-- The name of each operation, in the order in which `Call` lists them. -/
def names : List String := ["goto", "count", "fill", "type", "click", "hover", "press",
  "setInputFiles", "waitForTimeout", "title", "url", "content", "isVisible", "textContent",
  "inputValue", "getAttribute", "computedStyle", "evaluate", "mouse.move", "mouse.down",
  "mouse.up", "mouse.click", "keyboard.press", "close"]

theorem idxOf_name (c : Call) : names.idxOf c.name = c.ctorIdx := by cases c <;> rfl

theorem name_mem (c : Call) : c.name ∈ names := by
  cases c <;> simp [name, names]

end Call

namespace Bridge

namespace Operation

theorem inOrder_options {o : Option Json} (ordered : ∀ j ∈ o.toList, j.InOrder) :
    (options o).2.InOrder := by
  cases o with
  | none => exact .null
  | some j => exact ordered j (by simp)

theorem inOrder_details {c : Call} (ordered : c.InOrder) :
    ∀ argument ∈ details c, argument.2.InOrder := by
  have payloads (files : List Payload) : (Json.array (files.map Payload.toJson)).InOrder := by
    refine .array ?_
    intro item member
    obtain ⟨payload, -, rfl⟩ := List.mem_map.mp member
    exact Json.inOrder_payload payload
  cases c <;> simp only [details, List.forall_mem_cons, List.not_mem_nil, false_implies,
    implies_true, and_true, true_and, Json.InOrder.string, payloads, Json.inOrder_ofNat,
    Json.inOrder_ofBinary64]
  case evaluate script arg => exact ordered arg (by simp [Call.values])
  all_goals exact inOrder_options ordered

theorem inOrder_arguments {c : Call} (ordered : c.InOrder) :
    ∀ argument ∈ (ofCall c).arguments, argument.2.InOrder := by
  intro argument member
  rcases List.mem_append.mp member with own | aim
  · exact inOrder_details ordered argument own
  · obtain ⟨t, -, rfl⟩ := Option.map_eq_some_iff.mp (Option.mem_toList.mp aim)
    exact Json.inOrder_target t

/-- The arguments have different names, and no name of theirs is one that every request has. -/
def Distinct (o : Operation) : Prop := ("id" :: "op" :: o.arguments.map (·.1)).Nodup

theorem distinct_launch (s : BrowserSettings) : (launch s).Distinct := by
  simp [Distinct, launch]

theorem distinct_ofCall (c : Call) : (ofCall c).Distinct := by
  cases c <;> simp [Distinct, ofCall, details, options, Call.target?]

end Operation

structure Framed (id : Nat) (o : Operation) : Prop where
  /-- The only line break is at the end. -/
  oneLine : ∃ text, o.line id = text ++ "\n" ∧ '\n' ∉ text.toList
  /-- It is the text of the request, for every reader that allows for its nesting. -/
  reads : ∀ levels : Json.Levels, levels.Allow (o.request id).depth →
    Json.parseWithin levels (o.line id) = .ok (o.request id)
  /-- The request has these members and no others. -/
  exactly : ∃ members, o.request id = .object members ∧
    members.Perm (("id", .ofNat id) :: ("op", .string o.name) :: o.arguments)
  number : FitsWord id → (o.request id).countAt "id" = some id
  name : (o.request id).textAt "op" = some o.name
  arguments : ∀ argument ∈ o.arguments, (o.request id).member? argument.1 = some argument.2

variable {id : Nat} {o : Operation}

theorem member_found (id : Nat) (distinct : o.Distinct) {name : String} {value : Json}
    (found : (name, value) ∈ ("id", .ofNat id) :: ("op", .string o.name) :: o.arguments) :
    (o.request id).member? name = some value := by
  have names : ((("id", Json.ofNat id) :: ("op", .string o.name) :: o.arguments).map
      (·.1)).Nodup := distinct
  exact Json.member?_of_mem names found

theorem framed (distinct : o.Distinct) (ordered : ∀ argument ∈ o.arguments, argument.2.InOrder)
    (reals : (o.request id).RealsReadBack) : Framed id o := by
  have request : (o.request id).InOrder := by
    refine .objectOf ?_
    simp only [List.forall_mem_cons, Json.inOrder_ofNat, Json.InOrder.string, true_and]
    exact ordered
  constructor
  case oneLine =>
    refine ⟨(o.request id).compact, rfl, ?_⟩
    rw [Json.compact, String.toList_ofList]
    exact (Json.chars_visible _).not_mem_newline
  case reads =>
    intro levels allow
    have blank : ∀ c ∈ ['\n'], Json.isSpace c = true := List.forall_mem_singleton.mpr rfl
    exact Json.parseWithin_append request reals.all allow blank
  case exactly => exact ⟨_, rfl, Json.sortMembers_perm distinct⟩
  case number =>
    intro fits
    have found := member_found id distinct List.mem_cons_self
    rw [Json.countAt, found, Option.bind_some, Json.nat?_ofNat fits]
  case name =>
    have found := member_found id distinct (List.mem_cons_of_mem _ List.mem_cons_self)
    rw [Json.textAt, found]
    rfl
  case arguments =>
    intro argument member
    exact member_found id distinct (List.mem_cons_of_mem _ (List.mem_cons_of_mem _ member))

end Bridge

namespace Json

def HasOptions (j : Json) (o : Option Json) : Prop := j.member? "options" = some (o.getD .null)

/-- A coordinate. One that is not finite has no JSON form and is written as null. -/
def PlacesAt (j : Json) (name : String) (x : Binary64) : Prop :=
  (∀ negative size, x = .finite negative size → j.realAt name = some x) ∧
    ((∀ negative size, x ≠ .finite negative size) → j.member? name = some .null)

/-- The object asks for a call: every argument is there as it was given. -/
def AsksFor (j : Json) : Call → Prop
  | .goto url o => j.textAt "url" = some url ∧ j.HasOptions o
  | .fill t value o => j.AimsAt t ∧ j.textAt "value" = some value ∧ j.HasOptions o
  | .type t text o => j.AimsAt t ∧ j.textAt "text" = some text ∧ j.HasOptions o
  | .press t key o => j.AimsAt t ∧ j.textAt "key" = some key ∧ j.HasOptions o
  | .click t o | .hover t o => j.AimsAt t ∧ j.HasOptions o
  | .setInputFiles t files => j.AimsAt t ∧
      ∃ items, j.member? "files" = some (.array items) ∧ List.Forall₂ Hands items files
  | .count t | .isVisible t | .textContent t | .inputValue t => j.AimsAt t
  | .getAttribute t name => j.AimsAt t ∧ j.textAt "name" = some name
  | .computedStyle t property => j.AimsAt t ∧ j.textAt "property" = some property
  | .waitForTimeout ms => FitsWord ms → j.countAt "ms" = some ms
  | .evaluate script arg => j.textAt "script" = some script ∧ j.member? "arg" = some arg
  | .mouseMove x y => j.PlacesAt "x" x ∧ j.PlacesAt "y" y
  | .mouseClick x y count => j.PlacesAt "x" x ∧ j.PlacesAt "y" y ∧
      (FitsWord count → j.countAt "clickCount" = some count)
  | .keyboardPress key => j.textAt "key" = some key
  | .title | .url | .content | .mouseDown | .mouseUp | .close => True

structure AsksToLaunch (j : Json) (s : BrowserSettings) : Prop where
  browser : j.textAt "browser" = some s.browser
  headless : (j.member? "headless").bind bool? = some s.headless
  baseUrl : j.textAt "baseUrl" = s.baseUrl

end Json

namespace Bridge

open Operation

section

variable {c : Call} {id : Nat}

theorem argument_found {name : String} {value : Json}
    (given : (name, value) ∈ (ofCall c).arguments) :
    ((ofCall c).request id).member? name = some value :=
  member_found id (distinct_ofCall c) (List.mem_cons_of_mem _ (List.mem_cons_of_mem _ given))

theorem text_found {name text : String} (given : (name, .string text) ∈ details c) :
    ((ofCall c).request id).textAt name = some text := by
  rw [Json.textAt, argument_found (List.mem_append_left _ given)]
  rfl

theorem count_found {name : String} {n : Nat} (given : (name, .ofNat n) ∈ details c) :
    FitsWord n → ((ofCall c).request id).countAt name = some n := by
  intro fits
  rw [Json.countAt, argument_found (List.mem_append_left _ given), Option.bind_some,
    Json.nat?_ofNat fits]

theorem place_found {name : String} {x : Binary64} (given : (name, .ofBinary64 x) ∈ details c) :
    ((ofCall c).request id).PlacesAt name x := by
  have found : ((ofCall c).request id).member? name = some (.ofBinary64 x) :=
    argument_found (List.mem_append_left _ given)
  constructor
  · rintro negative size rfl
    rw [Json.realAt, found]
    rfl
  · intro endless
    rw [found]
    cases x with
    | finite negative size => exact absurd rfl (endless negative size)
    | infinite negative => rfl
    | nan => rfl

theorem options_found {o : Option Json} (given : options o ∈ details c) :
    ((ofCall c).request id).HasOptions o :=
  argument_found (List.mem_append_left _ given)

theorem target_found {t : Target} (aims : c.target? = some t) :
    ((ofCall c).request id).AimsAt t := by
  refine Json.aimsAt_toJson (argument_found (List.mem_append_right _ ?_))
  simp [aims]

end

theorem asksFor_ofCall (c : Call) (id : Nat) : ((ofCall c).request id).AsksFor c := by
  cases c with
  | goto url o => exact ⟨text_found (by simp [details]), options_found (by simp [details])⟩
  | count t => exact target_found rfl
  | fill t value o =>
    exact ⟨target_found rfl, text_found (by simp [details]), options_found (by simp [details])⟩
  | type t text o =>
    exact ⟨target_found rfl, text_found (by simp [details]), options_found (by simp [details])⟩
  | click t o => exact ⟨target_found rfl, options_found (by simp [details])⟩
  | hover t o => exact ⟨target_found rfl, options_found (by simp [details])⟩
  | press t key o =>
    exact ⟨target_found rfl, text_found (by simp [details]), options_found (by simp [details])⟩
  | setInputFiles t files =>
    have items : List.Forall₂ Json.Hands (files.map Payload.toJson) files := by
      rw [List.forall₂_map_left_iff, List.forall₂_same]
      exact fun payload _ => Json.hands_toJson payload
    have given : ("files", .array (files.map Payload.toJson)) ∈
        (ofCall (.setInputFiles t files)).arguments := by simp [ofCall, details]
    exact ⟨target_found rfl, _, argument_found given, items⟩
  | waitForTimeout ms => exact count_found (by simp [details])
  | isVisible t => exact target_found rfl
  | textContent t => exact target_found rfl
  | inputValue t => exact target_found rfl
  | getAttribute t name => exact ⟨target_found rfl, text_found (by simp [details])⟩
  | computedStyle t property => exact ⟨target_found rfl, text_found (by simp [details])⟩
  | evaluate script arg =>
    have given : ("arg", arg) ∈ (ofCall (.evaluate script arg)).arguments := by
      simp [ofCall, details]
    exact ⟨text_found (by simp [details]), argument_found given⟩
  | mouseMove x y => exact ⟨place_found (by simp [details]), place_found (by simp [details])⟩
  | mouseClick x y count =>
    exact ⟨place_found (by simp [details]), place_found (by simp [details]),
      count_found (by simp [details])⟩
  | keyboardPress key => exact text_found (by simp [details])
  | title | url | content | mouseDown | mouseUp | close => trivial

theorem asksToLaunch_launch (s : BrowserSettings) (id : Nat) :
    ((Operation.launch s).request id).AsksToLaunch s := by
  have found {name : String} {value : Json}
      (given : (name, value) ∈ (Operation.launch s).arguments) :
      ((Operation.launch s).request id).member? name = some value :=
    member_found id (distinct_launch s) (List.mem_cons_of_mem _ (List.mem_cons_of_mem _ given))
  have browser := @found "browser" (.string s.browser) (by simp [Operation.launch])
  have headless := @found "headless" (.bool s.headless) (by simp [Operation.launch])
  have baseUrl := @found "baseUrl" (Json.ofOption Json.string s.baseUrl)
    (by simp [Operation.launch])
  constructor
  case browser =>
    rw [Json.textAt, browser]
    rfl
  case headless =>
    rw [headless]
    rfl
  case baseUrl =>
    rw [Json.textAt, baseUrl]
    cases s.baseUrl <;> rfl

theorem inOrder_launch (s : BrowserSettings) :
    ∀ argument ∈ (Operation.launch s).arguments, argument.2.InOrder := by
  simp [Operation.launch, Json.InOrder.string, Json.InOrder.bool, Json.inOrder_ofOption]

end Bridge

end Walkthrough
