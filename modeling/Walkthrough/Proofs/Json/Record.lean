import Mathlib.Data.List.Nodup
import Walkthrough.Proofs.Json.Recovery

/-!
Records that are given back. A record is written field by field; reading what was written puts the
fields back into the blank record one after another, until nothing differs from the record that was
written.
-/
namespace Walkthrough.Json

variable {α β : Type} {levels : Levels}

def RecordField.Keeps (f : RecordField α) (levels : Levels) (P : α → Prop) : Prop :=
  ∀ o put a, f.read levels o = .ok put → P a → P (put a)

theorem keeps_of_set {f : RecordField α} {P : α → Prop} {read : Reader β} {set : β → α → α}
    (reads : ∀ o, f.read levels o = (read levels o).map set)
    (kept : ∀ v o a, read levels o = .ok v → P a → P (set v a)) : f.Keeps levels P := by
  intro o put a first held
  rw [reads] at first
  obtain ⟨v, found, rfl⟩ := map_eq_ok_iff.mp first
  exact kept v o a found held

namespace Schema

variable {s : Schema α}

theorem mem_of_field? {name : String} {f : RecordField α} (found : s.field? name = some f) :
    f ∈ s.fields := List.mem_of_find?_eq_some found

theorem name_of_field? {name : String} {f : RecordField α} (found : s.field? name = some f) :
    f.name = name := by
  simpa using List.find?_some found

theorem readMembers_keeps_of_named {P : α → Prop} {ending : Option TextFault} {seen : List String}
    {a : α} {members : List (Quotation × Outline)} {found : List String × α}
    (keeps : ∀ f ∈ s.fields, (∃ member ∈ members, member.1.text = .ok f.name) →
      f.Keeps levels P)
    (held : P a) (read : s.readMembers levels ending seen a members = .ok found) : P found.2 := by
  induction members generalizing seen a with
  | nil =>
    obtain ⟨_, -, read⟩ := bind_eq_ok_iff.mp read
    cases read
    exact held
  | cons member rest ih =>
    obtain ⟨q, item⟩ := member
    have later : ∀ f ∈ s.fields, (∃ member ∈ rest, member.1.text = .ok f.name) →
        f.Keeps levels P := by
      rintro f field ⟨member, there, named⟩
      exact keeps f field ⟨member, List.mem_cons_of_mem _ there, named⟩
    obtain ⟨name, text, read⟩ := bind_eq_ok_iff.mp read
    cases known : s.field? name with
    | none =>
      rw [known] at read
      dsimp only at read
      split at read
      · cases read
      · obtain ⟨_, -, read⟩ := bind_eq_ok_iff.mp read
        exact ih later held read
    | some f =>
      have named : q.text = .ok f.name := by
        rw [name_of_field? known]
        exact sound_eq_ok text
      rw [known] at read
      dsimp only at read
      split at read
      · cases read
      · obtain ⟨put, first, read⟩ := bind_eq_ok_iff.mp read
        have here := keeps f (mem_of_field? known) ⟨_, List.mem_cons_self, named⟩
        exact ih later (here item put a first held) read

theorem readMembers_keeps {P : α → Prop} (keeps : ∀ f ∈ s.fields, f.Keeps levels P)
    {ending : Option TextFault} {seen : List String} {a : α}
    {members : List (Quotation × Outline)} {found : List String × α} (held : P a)
    (read : s.readMembers levels ending seen a members = .ok found) : P found.2 :=
  readMembers_keeps_of_named (fun f field _ => keeps f field) held read

theorem accept_eq_ok {a b : α} (accepted : s.accept a = .ok b) : a = b ∧ s.refusal? a = none := by
  unfold accept at accepted
  split at accepted
  · rename_i fine
    cases accepted
    exact ⟨rfl, fine⟩
  · cases accepted

theorem readItems_keeps {P : α → Prop} {ending : Option TextFault} {index : Nat} {a b : α}
    {fields : List (RecordField α)} {outlines : List Outline}
    (keeps : ∀ f ∈ fields, f.Keeps levels P) (held : P a)
    (read : s.readItems levels ending index a fields outlines = .ok b) :
    P b ∧ s.refusal? b = none := by
  induction fields generalizing index a outlines with
  | nil =>
    rw [readItems] at read
    obtain ⟨c, accepted, read⟩ := bind_eq_ok_iff.mp read
    obtain ⟨_, -, read⟩ := bind_eq_ok_iff.mp read
    cases read
    obtain ⟨rfl, fine⟩ := accept_eq_ok accepted
    exact ⟨held, fine⟩
  | cons f rest ih =>
    have others : ∀ g ∈ rest, g.Keeps levels P :=
      fun g member => keeps g (List.mem_cons_of_mem f member)
    cases outlines with
    | nil =>
      obtain ⟨_, -, read⟩ := bind_eq_ok_iff.mp read
      split at read
      · exact ih others held read
      · cases read
    | cons o more =>
      obtain ⟨put, first, read⟩ := bind_eq_ok_iff.mp read
      exact ih others (keeps f List.mem_cons_self o put a first held) read

theorem read_keeps {P : Levels → α → Prop}
    (blank : ∀ inner, Reader.enter levels = .ok inner → P inner s.blank)
    (keeps : ∀ inner, Reader.enter levels = .ok inner →
      ∀ f ∈ s.fields, f.Keeps inner (P inner))
    {o : Outline} {a : α} (read : s.read levels o = .ok a) :
    ∃ inner, Reader.enter levels = .ok inner ∧ P inner a ∧ s.refusal? a = none := by
  unfold Schema.read at read
  split at read
  · obtain ⟨inner, entered, read⟩ := bind_eq_ok_iff.mp read
    obtain ⟨found, members, read⟩ := bind_eq_ok_iff.mp read
    have held := readMembers_keeps (keeps inner entered) (blank inner entered) members
    dsimp only at read
    split at read
    · cases read
    · obtain ⟨rfl, fine⟩ := accept_eq_ok read
      exact ⟨inner, entered, held, fine⟩
  · obtain ⟨inner, entered, read⟩ := bind_eq_ok_iff.mp read
    exact ⟨inner, entered, readItems_keeps (keeps inner entered) (blank inner entered) read⟩
  · exact absurd read refuse_ne_ok

theorem holds_of_read {P : α → Prop} (blank : P s.blank)
    (keeps : ∀ inner, ∀ f ∈ s.fields, f.Keeps inner P) {o : Outline} {a : α}
    (read : s.read levels o = .ok a) : P a := by
  obtain ⟨-, -, held, -⟩ :=
    read_keeps (P := fun _ => P) (fun _ _ => blank) (fun inner _ => keeps inner) read
  exact held

end Schema

/-- Reading what the fields are written as takes the one record to the other. -/
inductive Retraces (levels : Levels) (a : α) : α → List (RecordField α) → Prop
  | done : Retraces levels a a []
  | written {f : RecordField α} {fields : List (RecordField α)} {b c : α} {j : Json}
      (written : f.write a = some j)
      (read : ∀ o : Outline, o.Shows j → ∃ put, f.read levels o = .ok put ∧ put b = c)
      (rest : Retraces levels a c fields) : Retraces levels a b (f :: fields)
  | omitted {f : RecordField α} {fields : List (RecordField α)} {b : α}
      (omitted : f.write a = none) (presence : f.presence ≠ .required)
      (rest : Retraces levels a b fields) : Retraces levels a b (f :: fields)

namespace Retraces

variable {a b : α} {fields : List (RecordField α)} {name : String} {read : Reader β}
  {write : β → Json}

theorem required {get : α → β} {set : β → α → α} (value : Recovers read write levels (get a))
    (rest : Retraces levels a (set (get a) b) fields) :
    Retraces levels a b (.required name read write get set :: fields) := by
  refine .written rfl (fun o shown => ⟨set (get a), ?_, rfl⟩) rest
  simp only [RecordField.required, value o shown, Except.map]

theorem withDefault {get : α → β} {set : β → α → α} (value : Recovers read write levels (get a))
    (rest : Retraces levels a (set (get a) b) fields) :
    Retraces levels a b (.withDefault name read write get set :: fields) := by
  refine .written rfl (fun o shown => ⟨set (get a), ?_, rfl⟩) rest
  simp only [RecordField.withDefault, RecordField.required, value o shown, Except.map]

theorem unlessNone {get : α → Option β} {set : Option β → α → α} {presence : Presence}
    (may : presence ≠ .required)
    (value : Recovers (Reader.optional read) (Json.ofOption write) levels (get a))
    (blank : set none b = b) (rest : Retraces levels a (set (get a) b) fields) :
    Retraces levels a b
      ({ RecordField.optional name read write get set with presence } :: fields) := by
  cases given : get a with
  | none =>
    rw [given, blank] at rest
    exact .omitted (congrArg (Option.map write) given) may rest
  | some v =>
    refine .written (congrArg (Option.map write) given) (fun o shown => ⟨set (get a), ?_, rfl⟩) rest
    rw [given] at value ⊢
    simp only [RecordField.optional, value o shown, Except.map]

theorem optional {get : α → Option β} {set : Option β → α → α}
    (value : Recovers (Reader.optional read) (Json.ofOption write) levels (get a))
    (blank : set none b = b) (rest : Retraces levels a (set (get a) b) fields) :
    Retraces levels a b (.optional name read write get set :: fields) :=
  unlessNone nofun value blank rest

theorem listOrNothing {get : α → List β} {set : List β → α → α}
    (value : Recovers (Reader.list read) (fun vs => .array (vs.map write)) levels (get a))
    (blank : set [] b = b) (rest : Retraces levels a (set (get a) b) fields) :
    Retraces levels a b (.listOrNothing name read write get set :: fields) := by
  by_cases none : get a = []
  · rw [none, blank] at rest
    exact .omitted (if_pos (by rw [none]; rfl)) nofun rest
  · refine .written (if_neg (by simpa using none)) (fun o shown => ⟨set (get a), ?_, rfl⟩) rest
    simp only [RecordField.listOrNothing, value o shown, Except.map]

end Retraces

namespace Schema

variable {s : Schema α}

theorem field?_name (distinct : (s.fields.map (·.name)).Nodup) {f : RecordField α}
    (member : f ∈ s.fields) : s.field? f.name = some f := by
  unfold field?
  cases found : s.fields.find? (·.name == f.name) with
  | none =>
    have missed := List.find?_eq_none.mp found f member
    simp at missed
  | some g =>
    have same : g.name = f.name := by simpa using List.find?_some found
    exact congrArg some
      (List.inj_on_of_nodup_map distinct (List.mem_of_find?_eq_some found) member same)

theorem readMembers_retraces (distinct : (s.fields.map (·.name)).Nodup) {a b : α}
    {fields : List (RecordField α)} (retraces : Retraces levels a b fields)
    (within : ∀ f ∈ fields, f ∈ s.fields) (apart : (fields.map (·.name)).Nodup)
    {seen : List String} (unseen : ∀ f ∈ fields, f.name ∉ seen)
    {members : List (Quotation × Outline)} (shown : Outline.ShowsMembers members
      (fields.filterMap fun f => (f.write a).map fun j => (f.name, j))) :
    ∃ all, s.readMembers levels none seen b members = .ok (all, a) ∧
      (∀ name ∈ seen, name ∈ all) ∧ ∀ f ∈ fields, f.presence = .required → f.name ∈ all := by
  -- On the fields. Their names differ, so none of those to come is among the names that were seen.
  induction retraces generalizing seen members with
  | done =>
    cases shown
    exact ⟨seen, rfl, fun _ member => member, nofun⟩
  | @written f fields b c j written read rest ih =>
    have later := fun g member => within g (List.mem_cons_of_mem f member)
    obtain ⟨other, apart⟩ := List.nodup_cons.mp apart
    simp only [List.filterMap_cons, written, Option.map_some] at shown
    cases shown with
    | @cons q _ o _ outlines _ named first others =>
      obtain ⟨put, again, rfl⟩ := read o first
      have known := field?_name distinct (within f List.mem_cons_self)
      have fresh := unseen f List.mem_cons_self
      have unseen' : ∀ g ∈ fields, g.name ∉ f.name :: seen := by
        intro g member seen_
        rcases List.mem_cons.mp seen_ with same | before
        · exact other (List.mem_map.mpr ⟨g, member, same⟩)
        · exact unseen g (List.mem_cons_of_mem f member) before
      obtain ⟨all, goesOn, keeps, required⟩ := ih later apart unseen' others
      refine ⟨all, ?_, fun name member => keeps name (List.mem_cons_of_mem _ member), ?_⟩
      · simp only [readMembers, named, Reader.sound, known, List.contains_eq_mem, fresh, again,
          bind, Except.bind, decide_false, Bool.false_eq_true, if_false]
        exact goesOn
      · intro g member presence
        rcases List.mem_cons.mp member with rfl | member
        · exact keeps _ List.mem_cons_self
        · exact required g member presence
  | @omitted f fields b omitted presence rest ih =>
    have later := fun g member => within g (List.mem_cons_of_mem f member)
    obtain ⟨-, apart⟩ := List.nodup_cons.mp apart
    simp only [List.filterMap_cons, omitted, Option.map_none] at shown
    obtain ⟨all, goesOn, keeps, required⟩ :=
      ih later apart (fun g member => unseen g (List.mem_cons_of_mem f member)) shown
    refine ⟨all, goesOn, keeps, fun g member required_ => ?_⟩
    rcases List.mem_cons.mp member with rfl | member
    · exact absurd required_ presence
    · exact required g member required_

theorem recovers (distinct : (s.fields.map (·.name)).Nodup) {inner : Levels} {a : α}
    (entered : Reader.enter levels = .ok inner) (retraces : Retraces inner a s.blank s.fields)
    (fine : s.refusal? a = none) : Recovers s.read s.write levels a := by
  rintro _ (_ | _ | _ | _ | _ | shown)
  obtain ⟨all, members, -, required⟩ := readMembers_retraces distinct retraces
    (fun f member => member) distinct (fun f _ => List.not_mem_nil) shown
  have nothing : s.missing? all = none := by
    rw [missing?, Option.map_eq_none_iff, List.find?_eq_none]
    intro f member
    simpa using required f member
  simp only [Schema.read, entered, members, nothing, accept, fine, bind, Except.bind]

theorem returns (distinct : (s.fields.map (·.name)).Nodup) {P : Levels → α → Prop}
    (blank : ∀ inner, Reader.enter levels = .ok inner → P inner s.blank)
    (keeps : ∀ inner, Reader.enter levels = .ok inner → ∀ f ∈ s.fields, f.Keeps inner (P inner))
    (retraces : ∀ inner a, P inner a → Retraces inner a s.blank s.fields) :
    s.read.Returns s.write levels where
  recovers {o a} read := by
    obtain ⟨inner, entered, held, fine⟩ := read_keeps blank keeps read
    exact recovers distinct entered (retraces inner a held) fine
  null := nofun

end Schema

end Walkthrough.Json
