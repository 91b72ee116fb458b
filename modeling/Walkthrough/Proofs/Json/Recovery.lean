import Mathlib.Data.String.Basic
import Walkthrough.Json.Record
import Walkthrough.Proofs.Json.Written

/-!
Values that readers give back. What a reader has read once, it reads again from any outline of the
form in which the value is written, at the same level of nesting. Texts and values in memory do not
differ in this, so the levels are arbitrary.
-/
namespace Walkthrough.Json

def Ascending (members : List (String × Json)) : Prop :=
  members.Pairwise fun first later => first.1 < later.1

theorem mem_insertMember {name : String} {value : Json} {members : List (String × Json)}
    {member : String × Json} (found : member ∈ insertMember name value members) :
    member = (name, value) ∨ member ∈ members := by
  induction members with
  | nil => exact .inl (List.mem_singleton.mp found)
  | cons other rest ih =>
    obtain ⟨key, old⟩ := other
    rw [insertMember] at found
    split_ifs at found with before same
    · exact List.mem_cons.mp found
    · exact (List.mem_cons.mp found).imp_right (List.mem_cons_of_mem _)
    · rcases List.mem_cons.mp found with rfl | found
      · exact .inr List.mem_cons_self
      · exact (ih found).imp_right (List.mem_cons_of_mem _)

theorem Ascending.insertMember {members : List (String × Json)} (ascending : Ascending members)
    (name : String) (value : Json) : Ascending (insertMember name value members) := by
  induction members with
  | nil => exact List.pairwise_singleton _ _
  | cons other rest ih =>
    obtain ⟨key, old⟩ := other
    obtain ⟨first, later⟩ := List.pairwise_cons.mp ascending
    rw [Json.insertMember]
    split_ifs with before same
    · refine List.pairwise_cons.mpr ⟨?_, ascending⟩
      intro member found
      rcases List.mem_cons.mp found with rfl | found
      · exact before
      · exact lt_trans before (first member found)
    · exact List.pairwise_cons.mpr ⟨same ▸ first, later⟩
    · refine List.pairwise_cons.mpr ⟨?_, ih later⟩
      intro member found
      rcases mem_insertMember found with rfl | found
      · exact lt_of_le_of_ne (not_lt.mp before) (Ne.symm same)
      · exact first member found

def insertMembers (members sorted : List (String × Json)) : List (String × Json) :=
  members.foldl (fun sorted (name, value) => insertMember name value sorted) sorted

theorem mem_insertMembers {members sorted : List (String × Json)} {member : String × Json}
    (found : member ∈ insertMembers members sorted) : member ∈ sorted ∨ member ∈ members := by
  induction members generalizing sorted with
  | nil => exact .inl found
  | cons first rest ih =>
    rcases ih found with found | found
    · exact (mem_insertMember found).elim (fun same => .inr (same ▸ List.mem_cons_self)) .inl
    · exact .inr (List.mem_cons_of_mem _ found)

theorem Ascending.insertMembers {sorted : List (String × Json)} (ascending : Ascending sorted)
    (members : List (String × Json)) : Ascending (insertMembers members sorted) := by
  induction members generalizing sorted with
  | nil => exact ascending
  | cons first rest ih => exact ih (ascending.insertMember first.1 first.2)

theorem mem_of_mem_sortMembers {members : List (String × Json)} {member : String × Json}
    (found : member ∈ sortMembers members) : member ∈ members :=
  (@mem_insertMembers members [] member found).resolve_left List.not_mem_nil

theorem sortMembers_ascending (members : List (String × Json)) : Ascending (sortMembers members) :=
  Ascending.insertMembers .nil members

theorem insertMember_of_lt {name : String} (value : Json) {members : List (String × Json)}
    (past : ∀ member ∈ members, member.1 < name) :
    insertMember name value members = members ++ [(name, value)] := by
  induction members with
  | nil => rfl
  | cons other rest ih =>
    obtain ⟨key, old⟩ := other
    have below : key < name := past _ List.mem_cons_self
    rw [insertMember, if_neg (lt_asymm below), if_neg below.ne',
      ih fun member found => past member (List.mem_cons_of_mem _ found)]
    rfl

theorem insertMembers_eq_append {members sorted : List (String × Json)}
    (ascending : Ascending (sorted ++ members)) :
    insertMembers members sorted = sorted ++ members := by
  induction members generalizing sorted with
  | nil => exact (List.append_nil sorted).symm
  | cons member rest ih =>
    have past : ∀ other ∈ sorted, other.1 < member.1 :=
      fun other found => (List.pairwise_append.mp ascending).2.2 other found _ List.mem_cons_self
    have next := insertMember_of_lt member.2 past
    rw [List.append_cons] at ascending
    calc insertMembers (member :: rest) sorted
        = insertMembers rest (sorted ++ [member]) := congrArg (insertMembers rest) next
      _ = sorted ++ member :: rest := (ih ascending).trans (List.append_assoc ..)

theorem Ascending.sortMembers_eq {members : List (String × Json)} (ascending : Ascending members) :
    sortMembers members = members :=
  @insertMembers_eq_append members [] ascending

/-- The value is read from every outline of the form in which it is written. -/
def Recovers {α : Type} (read : Reader α) (write : α → Json) (levels : Levels) (a : α) : Prop :=
  ∀ o : Outline, o.Shows (write a) → read levels o = .ok a

/-- What is read once is read again from the form in which it is written. -/
structure Reader.Returns {α : Type} (read : Reader α) (write : α → Json) (levels : Levels) :
    Prop where
  recovers : ∀ {o a}, read levels o = .ok a → Recovers read write levels a
  /-- Nothing but null is written as null. -/
  null : ∀ {o a}, read levels o = .ok a → write a = .null → o = .null

theorem run_eq_ok {α : Type} {read : Reader α} {text : String} {a : α}
    (parsed : Reader.run read text = .ok a) : ∃ o, read (some nestingLimit) o = .ok a := by
  obtain ⟨found, value, closed⟩ := bind_eq_ok_iff.mp parsed
  refine ⟨_, value.trans ?_⟩
  split at closed
  · split at closed
    · exact congrArg Except.ok (Except.ok.inj closed)
    · cases closed
  · exact congrArg Except.ok (Except.ok.inj closed)

theorem sound_eq_ok {α : Type} {x : Except TextFault α} {a : α} (read : Reader.sound x = .ok a) :
    x = .ok a := by
  cases x with
  | ok b =>
    cases read
    rfl
  | error fault => cases read

theorem refuse_ne_ok {α : Type} {expected : String} {o : Outline} {a : α} :
    Reader.refuse expected o ≠ .ok a := by
  intro read
  cases o with
  | number n => cases n <;> cases read
  | string q =>
    obtain ⟨found, -, read⟩ := bind_eq_ok_iff.mp read
    cases read
  | null => cases read
  | bool b => cases read
  | list items ending => cases read
  | record members ending => cases read
  | broken fault => cases read

section

variable {α : Type} {levels : Levels}

theorem recovers_text (expected s : String) :
    Recovers (Reader.text expected) Json.string levels s := by
  rintro _ (_ | _ | _ | text | _ | _)
  exact congrArg Reader.sound text

theorem recovers_bool (b : Bool) : Recovers Reader.bool Json.bool levels b := by
  rintro _ (_ | _ | _ | _ | _ | _)
  rfl

section

variable {ofName : String → α} {name : α → String} (same : ∀ s, name (ofName s) = s)
include same

theorem recovers_named (s : String) :
    Recovers (fun levels o => (Reader.string levels o).map ofName) (fun a => .string (name a))
      levels (ofName s) := by
  intro o shown
  dsimp only at shown
  rw [same] at shown
  exact congrArg (Except.map ofName) (recovers_text _ s o shown)

theorem returns_named :
    Reader.Returns (fun levels o => (Reader.string levels o).map ofName)
      (fun a => .string (name a)) levels where
  recovers read := by
    obtain ⟨s, -, rfl⟩ := map_eq_ok_iff.mp read
    exact recovers_named same s
  null := nofun

end

theorem ofInt_of_fits {n : Int} (fits : FitsWord n) : Json.ofInt n = .number (.whole n fits) :=
  dif_pos fits

theorem ofNat_of_fits {n : Nat} (fits : FitsWord n) : Json.ofNat n = .number (.whole n fits) :=
  dif_pos fits

theorem nat_eq_ok {expected : String} {o : Outline} {n : Nat}
    (read : Reader.nat expected levels o = .ok n) : FitsWord n := by
  unfold Reader.nat at read
  split at read
  · obtain ⟨found, -, read⟩ := bind_eq_ok_iff.mp read
    split at read
    · split at read
      · rename_i value fits positive
        cases read
        rwa [Int.toNat_of_nonneg positive]
      · cases read
    · cases read
  · exact absurd read refuse_ne_ok

theorem recovers_nat {expected : String} {n : Nat} (fits : FitsWord n) :
    Recovers (Reader.nat expected) Json.ofNat levels n := by
  intro o shown
  rw [ofNat_of_fits fits] at shown
  cases shown
  simp [Reader.nat, Reader.sound, bind, Except.bind]

theorem returns_nat (expected : String) : (Reader.nat expected).Returns Json.ofNat levels where
  recovers read := recovers_nat (nat_eq_ok read)
  null read none := by
    rw [ofNat_of_fits (nat_eq_ok read)] at none
    cases none

theorem signed_eq_ok {o : Outline} {n : Int} (read : Reader.signed levels o = .ok n) :
    FitsWord n ∧ n ≤ 9223372036854775807 := by
  unfold Reader.signed at read
  split at read
  · obtain ⟨found, -, read⟩ := bind_eq_ok_iff.mp read
    split at read
    · split at read
      · rename_i value fits small
        cases read
        exact ⟨fits, small⟩
      · cases read
    · cases read
  · exact absurd read refuse_ne_ok

theorem returns_signed : Reader.signed.Returns Json.ofInt levels where
  recovers read := by
    obtain ⟨fits, small⟩ := signed_eq_ok read
    intro o shown
    rw [ofInt_of_fits fits] at shown
    cases shown
    exact if_pos small
  null read none := by
    rw [ofInt_of_fits (signed_eq_ok read).1] at none
    cases none

theorem recovers_variant {known : List (String × α)} {write : α → Json} {a : α} {name : String}
    (written : write a = .string name) (found : known.lookup name = some a) :
    Recovers (Reader.variant known) write levels a := by
  intro o shown
  rw [written] at shown
  cases shown with
  | string text =>
    simp only [Reader.variant, text, Reader.sound, bind, Except.bind, Reader.chooseVariant, found]

theorem optional_eq_ok_iff {read : Reader α} {o : Outline} {a : Option α} :
    Reader.optional read levels o = .ok a ↔
      o = .null ∧ a = none ∨ o ≠ .null ∧ ∃ v, read levels o = .ok v ∧ some v = a := by
  unfold Reader.optional
  split
  · simp [eq_comm]
  · rename_i other
    have given : o ≠ .null := fun same => other same
    simp [map_eq_ok_iff, given]

theorem recovers_none {read : Reader α} {write : α → Json} :
    Recovers (Reader.optional read) (Json.ofOption write) levels none := by
  rintro _ ⟨⟩
  rfl

theorem recovers_some {read : Reader α} {write : α → Json} {v : α}
    (value : Recovers read write levels v) (given : write v ≠ .null) :
    Recovers (Reader.optional read) (Json.ofOption write) levels (some v) := by
  intro o shown
  refine optional_eq_ok_iff.mpr (.inr ⟨?_, v, value o shown, rfl⟩)
  rintro rfl
  generalize written : Json.ofOption write (some v) = j at shown
  cases shown
  exact given written

theorem recovers_optionalText (text : Option String) :
    Recovers (Reader.optional Reader.string) (Json.ofOption Json.string) levels text := by
  cases text with
  | none => exact recovers_none
  | some s => exact recovers_some (recovers_text _ s) nofun

theorem Reader.Returns.optional {read : Reader α} {write : α → Json}
    (returns : read.Returns write levels) :
    (Reader.optional read).Returns (Json.ofOption write) levels where
  recovers first := by
    rcases optional_eq_ok_iff.mp first with ⟨-, rfl⟩ | ⟨given, v, read, rfl⟩
    · exact recovers_none
    · exact recovers_some (returns.recovers read) fun written => given (returns.null read written)
  null first written := by
    rcases optional_eq_ok_iff.mp first with ⟨none, -⟩ | ⟨-, v, read, rfl⟩
    · exact none
    · exact returns.null read written

theorem items_eq_ok {read : Reader α} {ending : Option TextFault} {outlines : List Outline}
    {found : List α} (all : Reader.items read levels ending outlines = .ok found) :
    ∀ a ∈ found, ∃ o, read levels o = .ok a := by
  induction outlines generalizing found with
  | nil =>
    obtain ⟨_, -, all⟩ := bind_eq_ok_iff.mp all
    cases all
    nofun
  | cons o rest ih =>
    obtain ⟨first, read, all⟩ := bind_eq_ok_iff.mp all
    obtain ⟨others, later, all⟩ := bind_eq_ok_iff.mp all
    cases all
    intro a member
    rcases List.mem_cons.mp member with rfl | member
    · exact ⟨o, read⟩
    · exact ih later a member

theorem list_eq_ok {read : Reader α} {o : Outline} {found : List α}
    (all : Reader.list read levels o = .ok found) :
    ∃ inner, Reader.enter levels = .ok inner ∧ ∀ a ∈ found, ∃ o, read inner o = .ok a := by
  unfold Reader.list at all
  split at all
  · obtain ⟨inner, entered, all⟩ := bind_eq_ok_iff.mp all
    exact ⟨inner, entered, items_eq_ok all⟩
  · exact absurd all refuse_ne_ok

theorem recovers_items {read : Reader α} {write : α → Json} {found : List α}
    {outlines : List Outline} (recovers : ∀ a ∈ found, Recovers read write levels a)
    (shown : Outline.ShowsItems outlines (found.map write)) :
    Reader.items read levels none outlines = .ok found := by
  induction found generalizing outlines with
  | nil =>
    cases shown
    rfl
  | cons a rest ih =>
    cases shown with
    | cons first others =>
      have again := recovers a List.mem_cons_self _ first
      have later := ih (fun b member => recovers b (List.mem_cons_of_mem a member)) others
      simp only [Reader.items, again, later, bind, Except.bind, pure, Except.pure]

theorem recovers_list {read : Reader α} {write : α → Json} {inner : Levels} {found : List α}
    (entered : Reader.enter levels = .ok inner)
    (recovers : ∀ a ∈ found, Recovers read write inner a) :
    Recovers (Reader.list read) (fun found => .array (found.map write)) levels found := by
  rintro _ (_ | _ | _ | _ | all | _)
  simp only [Reader.list, entered, bind, Except.bind, recovers_items recovers all]

theorem Reader.Returns.list {read : Reader α} {write : α → Json}
    (returns : ∀ inner, Reader.enter levels = .ok inner → read.Returns write inner) :
    (Reader.list read).Returns (fun found => .array (found.map write)) levels where
  recovers {o found} first := by
    obtain ⟨inner, entered, each⟩ := list_eq_ok first
    refine recovers_list entered fun a member => ?_
    obtain ⟨o, read⟩ := each a member
    exact (returns inner entered).recovers read
  null := nofun

theorem valueItems_eq_items {levels : Levels} {ending : Option TextFault}
    (outlines : List Outline) : Reader.valueItems levels ending outlines =
      Reader.items Reader.value levels ending outlines := by
  induction outlines with
  | nil => rfl
  | cons o rest ih => rw [Reader.valueItems, Reader.items, ih]

theorem recovers_members {levels : Levels} {members : List (String × Json)}
    {outlines : List (Quotation × Outline)}
    (recovers : ∀ member ∈ members, Recovers Reader.value id levels member.2)
    (shown : Outline.ShowsMembers outlines members) :
    Reader.valueMembers levels none outlines = .ok members := by
  induction members generalizing outlines with
  | nil =>
    cases shown
    rfl
  | cons member rest ih =>
    cases shown with
    | cons name first others =>
      have again := recovers _ List.mem_cons_self _ first
      have later := ih (fun b found => recovers b (List.mem_cons_of_mem _ found)) others
      simp only [Reader.valueMembers, name, Reader.sound, again, later, bind, Except.bind, pure,
        Except.pure]

mutual

theorem recovers_value {levels : Levels} (o : Outline) {j : Json}
    (read : Reader.value levels o = .ok j) : Recovers Reader.value id levels j := by
  match o with
  | .null =>
    cases read
    rintro _ ⟨⟩
    rfl
  | .bool b =>
    cases read
    rintro _ ⟨⟩
    rfl
  | .number n =>
    obtain ⟨found, -, rfl⟩ := map_eq_ok_iff.mp read
    rintro _ ⟨⟩
    rfl
  | .string q =>
    obtain ⟨s, -, rfl⟩ := map_eq_ok_iff.mp read
    rintro _ (_ | _ | _ | text | _ | _)
    simp only [Reader.value, text, Reader.sound, Except.map]
  | .list content ending =>
    obtain ⟨inner, entered, read⟩ := bind_eq_ok_iff.mp read
    obtain ⟨found, items, read⟩ := bind_eq_ok_iff.mp read
    cases read
    rintro _ (_ | _ | _ | _ | all | _)
    rw [← List.map_id found] at all
    -- A list of values is read like any list, by its items.
    have again := recovers_items (recovers_valueItems content items) all
    simp only [Reader.value, entered, valueItems_eq_items, again, bind, Except.bind, pure,
      Except.pure]
  | .record content ending =>
    obtain ⟨inner, entered, read⟩ := bind_eq_ok_iff.mp read
    obtain ⟨found, members, read⟩ := bind_eq_ok_iff.mp read
    cases read
    rintro _ (_ | _ | _ | _ | _ | all)
    -- Members are sorted as they are read, so sorting them again leaves them as they are.
    have again := recovers_members (fun member found =>
      recovers_valueMembers content members member (mem_of_mem_sortMembers found)) all
    simp only [Reader.value, entered, again, bind, Except.bind, pure, Except.pure, objectOf,
      (sortMembers_ascending found).sortMembers_eq]
  | .broken fault => cases read

theorem recovers_valueItems {levels : Levels} {ending : Option TextFault}
    (outlines : List Outline) {items : List Json}
    (all : Reader.valueItems levels ending outlines = .ok items) :
    ∀ j ∈ items, Recovers Reader.value id levels j := by
  match outlines with
  | [] =>
    obtain ⟨_, -, all⟩ := bind_eq_ok_iff.mp all
    cases all
    nofun
  | o :: rest =>
    obtain ⟨first, read, all⟩ := bind_eq_ok_iff.mp all
    obtain ⟨others, later, all⟩ := bind_eq_ok_iff.mp all
    cases all
    intro j member
    rcases List.mem_cons.mp member with rfl | member
    · exact recovers_value o read
    · exact recovers_valueItems rest later j member

theorem recovers_valueMembers {levels : Levels} {ending : Option TextFault}
    (outlines : List (Quotation × Outline)) {members : List (String × Json)}
    (all : Reader.valueMembers levels ending outlines = .ok members) :
    ∀ member ∈ members, Recovers Reader.value id levels member.2 := by
  match outlines with
  | [] =>
    obtain ⟨_, -, all⟩ := bind_eq_ok_iff.mp all
    cases all
    nofun
  | (name, o) :: rest =>
    obtain ⟨_, -, all⟩ := bind_eq_ok_iff.mp all
    obtain ⟨first, read, all⟩ := bind_eq_ok_iff.mp all
    obtain ⟨others, later, all⟩ := bind_eq_ok_iff.mp all
    cases all
    intro member found
    rcases List.mem_cons.mp found with rfl | found
    · exact recovers_value o read
    · exact recovers_valueMembers rest later member found

end

theorem returns_value : Reader.Returns Reader.value id levels where
  recovers {o _} read := recovers_value o read
  null {o j} read written := by
    subst written
    cases o with
    | null => rfl
    | bool b => cases read
    | number n =>
      obtain ⟨_, -, read⟩ := map_eq_ok_iff.mp read
      cases read
    | string q =>
      obtain ⟨_, -, read⟩ := map_eq_ok_iff.mp read
      cases read
    | list content ending =>
      obtain ⟨_, -, read⟩ := bind_eq_ok_iff.mp read
      obtain ⟨_, -, read⟩ := bind_eq_ok_iff.mp read
      cases read
    | record content ending =>
      obtain ⟨_, -, read⟩ := bind_eq_ok_iff.mp read
      obtain ⟨_, -, read⟩ := bind_eq_ok_iff.mp read
      cases read
    | broken fault => cases read

end

end Walkthrough.Json
