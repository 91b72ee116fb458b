import Walkthrough.Proofs.Page.Removal

/-!
Calls on a page in memory, one by one and in a row. One that fails leaves all but the log as it was,
and one that succeeds changes no element but that of its target. So the calls of a run that fail
might as well not have been made.
-/
namespace Walkthrough.MemoryPage

variable {p q : MemoryPage} {c : Call} {t : Target} {key : String} {elements : List Element}
  {place i : Nat} {e : Element}

/-- Of the elements with the key, the one with this place stands at this index. -/
structure StandsAt (key : String) (place : Nat) (elements : List Element) (i : Nat)
    (e : Element) : Prop where
  here : elements[i]? = some e
  sameKey : e.key = key
  before : amount key (elements.take i) = place

theorem StandsAt.after_key {d : Element} (same : d.key = key)
    (h : StandsAt key place elements i e) :
    StandsAt key (place + 1) (d :: elements) (i + 1) e :=
  ⟨h.here, h.sameKey, by rw [List.take_succ_cons, amount_cons_of_key same, h.before]⟩

theorem StandsAt.after_other {d : Element} (other : d.key ≠ key)
    (h : StandsAt key place elements i e) : StandsAt key place (d :: elements) (i + 1) e :=
  ⟨h.here, h.sameKey, by rw [List.take_succ_cons, amount_cons_of_ne other, h.before]⟩

theorem standsAt_of_found (found : (elements.filter (·.key == key))[place]? = some e) :
    ∃ i, StandsAt key place elements i e ∧
      (∀ f, change key f place elements = elements.set i (f e)) ∧
      dropAt key place elements = elements.eraseIdx i := by
  induction elements generalizing place with
  | nil => simp at found
  | cons d rest ih =>
    by_cases same : d.key = key
    · rw [List.filter_cons_of_pos (by simpa using same)] at found
      cases place with
      | zero =>
        obtain rfl : d = e := by simpa using found
        exact ⟨0, ⟨rfl, same, rfl⟩, fun f => by simp [change, same], by simp [dropAt, same]⟩
      | succ place =>
        obtain ⟨i, stands, changes, drops⟩ := ih (by simpa using found)
        exact ⟨i + 1, stands.after_key same, fun f => by simp [change, same, changes],
          by simp [dropAt, same, drops]⟩
    · rw [List.filter_cons_of_neg (by simpa using same)] at found
      obtain ⟨i, stands, changes, drops⟩ := ih found
      exact ⟨i + 1, stands.after_other same, fun f => by simp [change, same, changes],
        by simp [dropAt, same, drops]⟩

theorem StandsAt.found (h : StandsAt key place elements i e) :
    (elements.filter (·.key == key))[place]? = some e := by
  have split : elements = elements.take i ++ e :: elements.drop (i + 1) := by
    obtain ⟨bound, rfl⟩ := List.getElem?_eq_some_iff.mp h.here
    rw [← List.drop_eq_getElem_cons bound, List.take_append_drop]
  have many : ((elements.take i).filter (·.key == key)).length = place := by
    rw [← List.countP_eq_length_filter]
    exact h.before
  rw [split, List.filter_append, List.filter_cons_of_pos (by simpa using h.sameKey),
    List.getElem?_append_right (by omega), many, Nat.sub_self]
  rfl

/-- The element of a target: the first of its key, or the one with its index. -/
def Targets (p : MemoryPage) (t : Target) : Nat → Element → Prop :=
  StandsAt t.locator.key (t.nth.getD 0) p.elements

theorem find?_eq_none_iff_targets : p.find? t = none ↔ ∀ i e, ¬ p.Targets t i e := by
  constructor
  · intro none i e targets
    have found : p.find? t = some e := targets.found
    rw [none] at found
    cases found
  · intro absent
    cases found : p.find? t with
    | none => rfl
    | some e =>
      obtain ⟨i, stands, -⟩ := standsAt_of_found found
      exact absurd stands (absent i e)

inductive Changes (p : MemoryPage) (c : Call) : List Element → Prop where
  | none : Changes p c p.elements
  | edited {t : Target} {i : Nat} {e : Element} (aims : c.target? = some t)
      (targets : p.Targets t i e) (value : String) (files : List Payload) :
      Changes p c (p.elements.set i { e with value, files })
  | removed {t : Target} {options : Option Json} {i : Nat} {e : Element}
      (clicks : c = .click t options) (goes : t.locator.key ∈ p.clickRemoves)
      (targets : p.Targets t i e) : Changes p c (p.elements.eraseIdx i)

/-- What a call comes to, with the fault if it fails. -/
inductive Served (p : MemoryPage) (c : Call) : Option PageFault → MemoryPage → Prop where
  | done {q : MemoryPage} (changes : p.Changes c q.elements) : Served p c none q
  | missed {t : Target} (aims : c.target? = some t) (absent : ∀ i e, ¬ p.Targets t i e) :
      Served p c (some (.notFound t.display)) p
  | failed {line start message : String} (arranged : (start, message) ∈ p.failing)
      (begins : line.startsWith start = true) :
      Served p c (some (.automation message)) { p with log := p.log ++ [line] }

def faultOf? {α : Type} : Except PageFault α → Option PageFault
  | .ok _ => none
  | .error fault => some fault

theorem faultOf?_eq_some_iff {α : Type} {answer : Except PageFault α} {fault : PageFault} :
    faultOf? answer = some fault ↔ answer = .error fault := by
  cases answer <;> simp [faultOf?]

theorem faultOf?_eq_none_iff {α : Type} {answer : Except PageFault α} :
    faultOf? answer = none ↔ ∃ value, answer = .ok value := by
  cases answer <;> simp [faultOf?]

theorem served_record {line : String} {effect : MemoryPage → MemoryPage}
    (changes : p.Changes c (effect { p with log := p.log ++ [line] }).elements) :
    p.Served c (faultOf? (p.record line effect).1) (p.record line effect).2 := by
  unfold record
  dsimp only
  split
  case h_1 failure =>
    have begins := List.find?_some failure
    exact .failed (List.mem_of_find?_eq_some failure) begins
  case h_2 => exact .done changes

theorem served_act {line : String} {effect : MemoryPage → MemoryPage} (aims : c.target? = some t)
    (changes : ∀ e, p.find? t = some e →
      p.Changes c (effect { p with log := p.log ++ [line] }).elements) :
    p.Served c (faultOf? (p.act t line effect).1) (p.act t line effect).2 := by
  unfold act
  cases found : p.find? t with
  | none => exact .missed aims (find?_eq_none_iff_targets.mp found)
  | some e => exact served_record (changes e found)

theorem served_read {α : Type} (aims : c.target? = some t) (get : Element → α) :
    p.Served c (faultOf? (p.read t get).1) (p.read t get).2 := by
  unfold read
  cases found : p.find? t with
  | none => exact .missed aims (find?_eq_none_iff_targets.mp found)
  | some e => exact .done .none

theorem noteOptions_elements (p : MemoryPage) (operation : String) (options : Option Json) :
    (p.noteOptions operation options).elements = p.elements := by
  cases options <;> rfl

theorem noteOptions_clickRemoves (p : MemoryPage) (operation : String) (options : Option Json) :
    (p.noteOptions operation options).clickRemoves = p.clickRemoves := by
  cases options <;> rfl

theorem changes_changeTarget {f : Element → Element} (aims : c.target? = some t)
    (same : q.elements = p.elements)
    (edits : ∀ e, f e = { e with value := (f e).value, files := (f e).files })
    (found : p.find? t = some e) : p.Changes c (q.changeTarget t f).elements := by
  obtain ⟨i, stands, changes, -⟩ := standsAt_of_found found
  rw [changeTarget, same, changes, edits e]
  exact .edited aims stands _ _

theorem clicked_elements (t : Target) (q : MemoryPage) :
    (clicked t q).elements =
      if q.clickRemoves.contains t.locator.key then
        dropAt t.locator.key (t.nth.getD 0) q.elements
      else q.elements := by
  by_cases removes : q.clickRemoves.contains t.locator.key = true <;>
    cases leads : q.clickNavigation.lookup t.locator.key <;>
    simp only [clicked, navigate, leads, removes, if_true, if_false, Bool.false_eq_true]

theorem changes_clicked {options : Option Json} (same : q.elements = p.elements)
    (removes : q.clickRemoves = p.clickRemoves) (found : p.find? t = some e) :
    p.Changes (.click t options) (clicked t q).elements := by
  obtain ⟨i, stands, -, drops⟩ := standsAt_of_found found
  rw [clicked_elements, same, removes]
  split
  case isTrue goes =>
    rw [drops]
    exact .removed rfl (List.contains_iff_mem.mp goes) stands
  case isFalse => exact .none

theorem serve_served (p : MemoryPage) (c : Call) :
    p.Served c (faultOf? (p.serve c).1) (p.serve c).2 := by
  cases c with
  | goto url options =>
    refine served_record ?_
    rw [noteOptions_elements]
    exact .none
  | fill t value options =>
    exact served_act rfl fun e found =>
      changes_changeTarget rfl (noteOptions_elements ..) (fun _ => rfl) found
  | type t text options =>
    exact served_act rfl fun e found =>
      changes_changeTarget rfl (noteOptions_elements ..) (fun _ => rfl) found
  | setInputFiles t files =>
    exact served_act rfl fun e found => changes_changeTarget rfl rfl (fun _ => rfl) found
  | click t options =>
    exact served_act rfl fun e found =>
      changes_clicked (noteOptions_elements ..) (noteOptions_clickRemoves ..) found
  | hover t options | press t _ options =>
    refine served_act rfl fun e found => ?_
    rw [noteOptions_elements]
    exact .none
  | waitForTimeout | mouseMove | mouseDown | mouseUp | mouseClick | keyboardPress =>
    exact served_record .none
  | evaluate script arg =>
    have recorded := @served_record p (.evaluate script arg) s!"evaluate {arg.compact}" id .none
    cases ended : p.record s!"evaluate {arg.compact}" id with
    | mk answer after =>
      rw [ended] at recorded
      cases answer <;> (simp only [serve, ended]; exact recorded)
  | textContent | inputValue | getAttribute | computedStyle => exact served_read rfl _
  | count | title | url | content | isVisible | close => exact .done .none

theorem serve_failed {fault : PageFault} (fails : (p.serve c).1 = .error fault) :
    ∃ lines, (p.serve c).2 = { p with log := p.log ++ lines } ∧
      ((∃ target, fault = .notFound target) ∧ lines = [] ∨
        (∀ target, fault ≠ .notFound target) ∧ ∃ line, lines = [line]) := by
  have served := p.serve_served c
  rw [fails] at served
  generalize (p.serve c).2 = q at served
  cases served with
  | missed => exact ⟨[], by rw [List.append_nil], .inl ⟨⟨_, rfl⟩, rfl⟩⟩
  | @failed line => exact ⟨[line], rfl, .inr ⟨nofun, line, rfl⟩⟩

theorem serve_succeeded {value : c.Value} (succeeds : (p.serve c).1 = .ok value) :
    p.Changes c (p.serve c).2.elements := by
  have served := p.serve_served c
  rw [succeeds] at served
  generalize (p.serve c).2 = q at served ⊢
  cases served with
  | done changes => exact changes

def AlikeButLog (p q : MemoryPage) : Prop := ∃ log, q = { p with log }

def LogBlind (effect : MemoryPage → MemoryPage) : Prop :=
  ∀ p log, effect { p with log } = { effect p with log }

theorem record_withLog {effect : MemoryPage → MemoryPage} (blind : LogBlind effect)
    (p : MemoryPage) (log : List String) (line : String) :
    ∃ log', { p with log }.record line effect =
      ((p.record line effect).1, { (p.record line effect).2 with log := log' }) := by
  refine ⟨log ++ [line], ?_⟩
  unfold record
  dsimp only
  split
  · rfl
  · rw [blind { p with log } (log ++ [line]), blind p (p.log ++ [line]), blind p log]

theorem act_withLog {effect : MemoryPage → MemoryPage} (blind : LogBlind effect)
    (p : MemoryPage) (log : List String) (t : Target) (line : String) :
    ∃ log', { p with log }.act t line effect =
      ((p.act t line effect).1, { (p.act t line effect).2 with log := log' }) := by
  have same : { p with log }.find? t = p.find? t := rfl
  unfold act
  rw [same]
  cases p.find? t with
  | none => exact ⟨log, rfl⟩
  | some e => exact record_withLog blind p log line

theorem read_withLog {α : Type} (p : MemoryPage) (log : List String) (t : Target)
    (get : Element → α) : ∃ log', { p with log }.read t get =
      ((p.read t get).1, { (p.read t get).2 with log := log' }) := by
  have same : { p with log }.find? t = p.find? t := rfl
  unfold read
  rw [same]
  cases p.find? t <;> exact ⟨log, rfl⟩

theorem logBlind_noteOptions (operation : String) (options : Option Json) :
    LogBlind fun p => p.noteOptions operation options := by
  intro p log
  cases options <;> rfl

theorem logBlind_changeTarget (t : Target) (f : Element → Element) :
    LogBlind fun p => p.changeTarget t f := fun _ _ => rfl

theorem logBlind_navigate (url : String) : LogBlind fun p => p.navigate url := fun _ _ => rfl

theorem logBlind_clicked (t : Target) : LogBlind (clicked t) := by
  intro p log
  by_cases removes : p.clickRemoves.contains t.locator.key = true <;>
    cases leads : p.clickNavigation.lookup t.locator.key <;>
    simp only [clicked, navigate, leads, removes, if_true, if_false, Bool.false_eq_true]

theorem LogBlind.comp {first second : MemoryPage → MemoryPage} (h₂ : LogBlind second)
    (h₁ : LogBlind first) : LogBlind fun p => second (first p) := by
  intro p log
  dsimp only
  rw [h₁, h₂]

theorem logBlind_id : LogBlind id := fun _ _ => rfl

theorem serve_withLog (p : MemoryPage) (log : List String) (c : Call) :
    ∃ log', { p with log }.serve c = ((p.serve c).1, { (p.serve c).2 with log := log' }) := by
  cases c with
  | goto url options =>
    exact record_withLog ((logBlind_noteOptions _ options).comp (logBlind_navigate url)) ..
  | fill t _ options | type t _ options =>
    exact act_withLog ((logBlind_changeTarget t _).comp (logBlind_noteOptions _ options)) ..
  | click t options =>
    exact act_withLog ((logBlind_clicked t).comp (logBlind_noteOptions _ options)) ..
  | hover t options | press t _ options => exact act_withLog (logBlind_noteOptions _ options) ..
  | setInputFiles t files => exact act_withLog (logBlind_changeTarget t _) ..
  | waitForTimeout | mouseMove | mouseDown | mouseUp | mouseClick | keyboardPress =>
    exact record_withLog logBlind_id ..
  | evaluate script arg =>
    obtain ⟨log', recorded⟩ := record_withLog logBlind_id p log s!"evaluate {arg.compact}"
    cases ended : p.record s!"evaluate {arg.compact}" id with
    | mk answer after =>
      rw [ended] at recorded
      cases answer <;> exact ⟨log', by simp only [serve, recorded, ended]⟩
  | textContent | inputValue | getAttribute | computedStyle => exact read_withLog ..
  | count | title | url | content | isVisible | close => exact ⟨log, rfl⟩

def after (p : MemoryPage) : List Call → MemoryPage
  | [] => p
  | c :: rest => after (p.serve c).2 rest

def succeeding (p : MemoryPage) : List Call → List Call
  | [] => []
  | c :: rest =>
    match (p.serve c).1 with
    | .ok _ => c :: succeeding (p.serve c).2 rest
    | .error _ => succeeding (p.serve c).2 rest

/-- By induction on the calls, with any two pages that are alike to begin with. -/
theorem AlikeButLog.after (h : p.AlikeButLog q) (calls : List Call) :
    (p.after calls).AlikeButLog (q.after (p.succeeding calls)) := by
  induction calls generalizing p q with
  | nil => exact h
  | cons c rest ih =>
    obtain ⟨log, rfl⟩ := h
    unfold succeeding
    -- A call that succeeds is made on both pages, one that fails only on the first.
    cases answered : (p.serve c).1 with
    | ok value =>
      obtain ⟨log', served⟩ := p.serve_withLog log c
      refine ih ⟨log', ?_⟩
      rw [served]
    | error fault =>
      obtain ⟨lines, unchanged, -⟩ := serve_failed answered
      refine ih ⟨log, ?_⟩
      rw [unchanged]

/-- A call that fails changes the log at most, by one line unless it finds no element; one that
succeeds changes or removes no element but that of its target; and of calls in a row those that
fail might as well be left out. -/
theorem failures_leave_page (p : MemoryPage) :
    (∀ c fault, (p.serve c).1 = .error fault →
      ∃ lines, (p.serve c).2 = { p with log := p.log ++ lines } ∧
        ((∃ target, fault = .notFound target) ∧ lines = [] ∨
          (∀ target, fault ≠ .notFound target) ∧ ∃ line, lines = [line])) ∧
      (∀ c value, (p.serve c).1 = .ok value → p.Changes c (p.serve c).2.elements) ∧
      ∀ calls, (p.after calls).AlikeButLog (p.after (p.succeeding calls)) :=
  ⟨fun _ _ => serve_failed, fun _ _ => serve_succeeded,
    fun calls => AlikeButLog.after ⟨p.log, rfl⟩ calls⟩

namespace Sample

def row : Target := ⟨.selector "row", some 1⟩

/-- Two rows, the second of which a click removes; no field can be filled in. -/
def rows : MemoryPage where
  elements := [{ key := "row" }, { key := "head" }, { key := "row", value := "second" }]
  clickRemoves := ["row"]
  failing := [("fill", "read only")]

/-- To fill in fails with a line in the log, to look for a third row fails without one, and a
click takes away the second row alone. -/
theorem rows_left :
    (∃ line, (rows.serve (.fill row "new" none)).2 = { rows with log := [line] }) ∧
      (rows.serve (.textContent ⟨.selector "row", some 2⟩)).2 = rows ∧
      rows.Changes (.click row none) (rows.elements.eraseIdx 2) ∧
      (rows.after [.fill row "new" none, .click row none]).AlikeButLog
        (rows.after (rows.succeeding [.fill row "new" none, .click row none])) := by
  obtain ⟨fails, succeeds, run⟩ := failures_leave_page rows
  refine ⟨?_, ?_, ?_, run _⟩
  · have filled := faultOf?_eq_some_iff.mp (show faultOf? (rows.serve (.fill row "new" none)).1 =
      some (.automation "read only") by decide +kernel)
    obtain ⟨lines, left, ⟨⟨target, other⟩, -⟩ | ⟨-, line, rfl⟩⟩ := fails _ _ filled
    · cases other
    · exact ⟨line, left⟩
  · obtain ⟨lines, left, ⟨-, rfl⟩ | ⟨other, -⟩⟩ :=
      fails (.textContent ⟨.selector "row", some 2⟩) (.notFound "row >> nth=2") rfl
    · exact left.trans (by rw [List.append_nil])
    · exact absurd rfl (other _)
  · obtain ⟨value, clicked⟩ := faultOf?_eq_none_iff.mp
      (show faultOf? (rows.serve (.click row none)).1 = none by decide +kernel)
    have gone : (rows.serve (.click row none)).2.elements = rows.elements.eraseIdx 2 := by
      decide +kernel
    exact gone ▸ succeeds _ value clicked

end Sample

end Walkthrough.MemoryPage
