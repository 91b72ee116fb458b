import Walkthrough.Proofs.Json.Members
import Walkthrough.Proofs.Json.Record

/-!
What the fields of a record are written as: the numbers in them, and the fields that are left out.
-/
namespace Walkthrough.Json

/-- All numbers in the value are read from their own text. -/
def Readable (j : Json) : Prop := ∀ n ∈ j.numbers, n.ReadsBack

theorem readable_string (s : String) : Readable (.string s) :=
  fun _ member => absurd member List.not_mem_nil

theorem readable_ofNat {n : Nat} (fits : FitsWord n) : Readable (.ofNat n) := by
  rw [ofNat_of_fits fits]
  intro m member
  rw [List.mem_singleton.mp member]
  exact readsBack_whole n fits

theorem readable_array {items : List Json} (all : ∀ item ∈ items, Readable item) :
    Readable (.array items) := by
  induction items with
  | nil => exact fun _ member => absurd member List.not_mem_nil
  | cons item rest ih =>
    obtain ⟨first, others⟩ := List.forall_mem_cons.mp all
    intro n member
    rcases List.mem_append.mp member with here | later
    · exact first n here
    · exact ih others n later

theorem readable_object {members : List (String × Json)}
    (all : ∀ member ∈ members, Readable member.2) : Readable (.object members) := by
  induction members with
  | nil => exact fun _ member => absurd member List.not_mem_nil
  | cons member rest ih =>
    obtain ⟨first, others⟩ := List.forall_mem_cons.mp all
    intro n found
    rcases List.mem_append.mp found with here | later
    · exact first n here
    · exact ih others n later

theorem readable_list {α : Type} {write : α → Json} {as : List α}
    (all : ∀ a ∈ as, Readable (write a)) : Readable (.array (as.map write)) :=
  readable_array fun _ member => by
    obtain ⟨a, found, rfl⟩ := List.mem_map.mp member
    exact all a found

section

variable {α β : Type} {name : String} {read : Reader β} {write : β → Json} {a : α}

def RecordField.Readable (f : RecordField α) (a : α) : Prop :=
  ∀ j, f.write a = some j → j.Readable

theorem RecordField.Readable.required {get : α → β} {set : β → α → α}
    (value : (write (get a)).Readable) :
    (RecordField.required name read write get set).Readable a := by
  rintro _ ⟨⟩
  exact value

theorem RecordField.Readable.optional {get : α → Option β} {set : Option β → α → α}
    {presence : Presence} (value : ∀ v, get a = some v → (write v).Readable) :
    ({ RecordField.optional name read write get set with presence }).Readable a := by
  intro j written
  obtain ⟨v, given, rfl⟩ := Option.map_eq_some_iff.mp written
  exact value v given

theorem RecordField.Readable.listOrNothing {get : α → List β} {set : List β → α → α}
    (each : ∀ v ∈ get a, (write v).Readable) :
    (RecordField.listOrNothing name read write get set).Readable a := by
  intro j written
  dsimp only [RecordField.listOrNothing] at written
  split at written
  · cases written
  · cases written
    exact readable_list each

theorem readable_write {s : Schema α} (all : ∀ f ∈ s.fields, f.Readable a) :
    Readable (s.write a) := by
  refine readable_object fun member found => ?_
  obtain ⟨f, field, written⟩ := List.mem_filterMap.mp found
  obtain ⟨j, value, rfl⟩ := Option.map_eq_some_iff.mp written
  exact all f field j value

end

/-- The field of that name is written unless there is nothing in it, and there is nothing in it when
the object that is read has no member of that name. -/
structure Schema.Omits {α : Type} (s : Schema α) (name : String) (nothing : α → Prop) : Prop where
  written : ∀ a, (s.write a).member? name = none ↔ nothing a
  read : ∀ levels members ending a, (∀ member ∈ members, member.1.text ≠ .ok name) →
    s.read levels (.record members ending) = .ok a → nothing a

namespace Schema

variable {α : Type} {s : Schema α}

theorem member?_write (distinct : (s.fields.map (·.name)).Nodup) {f : RecordField α}
    (field : f ∈ s.fields) (a : α) : (s.write a).member? f.name = f.write a := by
  have names : ((s.fields.filterMap fun f => (f.write a).map fun j => (f.name, j)).map
      (·.1)).Sublist (s.fields.map (·.name)) := by
    induction s.fields with
    | nil => exact .slnil
    | cons g rest ih =>
      cases written : g.write a with
      | none => simpa [written] using ih.cons g.name
      | some j => simpa [written] using ih.cons_cons g.name
  cases written : f.write a with
  | none =>
    refine List.lookup_eq_none_iff.mpr fun member found => ?_
    obtain ⟨g, other, value⟩ := List.mem_filterMap.mp found
    obtain ⟨j, given, rfl⟩ := Option.map_eq_some_iff.mp value
    rw [bne_iff_ne]
    intro same
    obtain rfl := List.inj_on_of_nodup_map distinct other field same.symm
    rw [written] at given
    cases given
  | some j =>
    refine lookup_of_mem (names.nodup distinct) (List.mem_filterMap.mpr ⟨f, field, ?_⟩)
    rw [written, Option.map_some]

theorem Omits.of_field (distinct : (s.fields.map (·.name)).Nodup) {name : String}
    {f : RecordField α} (known : s.field? name = some f) {nothing : α → Prop}
    (written : ∀ a, f.write a = none ↔ nothing a) (blank : nothing s.blank)
    (others : ∀ g ∈ s.fields, g.name ≠ name → ∀ levels, g.Keeps levels nothing) :
    s.Omits name nothing where
  written a := by
    rw [← name_of_field? known, member?_write distinct (mem_of_field? known), written]
  read levels members ending a absent read := by
    obtain ⟨inner, entered, read⟩ := bind_eq_ok_iff.mp read
    obtain ⟨found, all, read⟩ := bind_eq_ok_iff.mp read
    have keeps : ∀ g ∈ s.fields, (∃ member ∈ members, member.1.text = .ok g.name) →
        g.Keeps inner nothing := by
      rintro g other ⟨member, there, named⟩
      refine others g other (fun same => ?_) inner
      exact absent member there (same ▸ named)
    have held := readMembers_keeps_of_named keeps blank all
    dsimp only at read
    split at read
    · cases read
    · obtain ⟨rfl, -⟩ := accept_eq_ok read
      exact held

end Schema

end Walkthrough.Json
