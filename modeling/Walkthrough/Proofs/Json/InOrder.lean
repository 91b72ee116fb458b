import Mathlib.Data.List.TakeWhile
import Walkthrough.Proofs.Json.Layout
import Walkthrough.Proofs.Json.Recovery

/-!
Values in order. A value whose objects have their members in order is read back from its own text,
whatever it nests, by a reader that allows as many levels; the values that readers return are such.
-/
namespace Walkthrough.Json

inductive InOrder : Json → Prop where
  | null : InOrder .null
  | bool (b : Bool) : InOrder (.bool b)
  | number (n : JsonNumber) : InOrder (.number n)
  | string (s : String) : InOrder (.string s)
  | array {items : List Json} (all : ∀ item ∈ items, InOrder item) : InOrder (.array items)
  | object {members : List (String × Json)} (ascending : Ascending members)
      (all : ∀ member ∈ members, InOrder member.2) : InOrder (.object members)

mutual

def depth : Json → Nat
  | .array items => itemsDepth items + 1
  | .object members => membersDepth members + 1
  | .null | .bool _ | .number _ | .string _ => 0

def itemsDepth : List Json → Nat
  | [] => 0
  | item :: rest => max (depth item) (itemsDepth rest)

def membersDepth : List (String × Json) → Nat
  | [] => 0
  | (_, value) :: rest => max (depth value) (membersDepth rest)

end

theorem depth_le_itemsDepth {item : Json} {items : List Json} (member : item ∈ items) :
    item.depth ≤ itemsDepth items := by
  induction items with
  | nil => cases member
  | cons first rest ih =>
    rw [itemsDepth]
    rcases List.mem_cons.mp member with rfl | later
    · omega
    · have := ih later
      omega

theorem depth_le_membersDepth {member : String × Json} {members : List (String × Json)}
    (found : member ∈ members) : member.2.depth ≤ membersDepth members := by
  induction members with
  | nil => cases found
  | cons first rest ih =>
    rw [membersDepth]
    rcases List.mem_cons.mp found with rfl | later
    · omega
    · have := ih later
      omega

/-- The levels that are left are enough for a nesting of this depth. -/
def Levels.Allow (levels : Levels) (depth : Nat) : Prop := ∀ left, levels = some left → depth < left

section

variable {levels : Levels} {depth : Nat}

theorem Levels.allow_none : Levels.Allow none depth := nofun

theorem Levels.Allow.mono {less : Nat} (allow : levels.Allow depth) (le : less ≤ depth) :
    levels.Allow less := by
  intro left is
  have := allow left is
  omega

theorem Levels.Allow.enter (allow : levels.Allow (depth + 1)) :
    ∃ inner, Reader.enter levels = .ok inner ∧ Levels.Allow inner depth := by
  cases levels with
  | none => exact ⟨none, rfl, Levels.allow_none⟩
  | some left =>
    have room := allow left rfl
    refine ⟨some (left - 1), if_neg (by omega), ?_⟩
    rintro _ ⟨⟩
    omega

theorem InOrder.recovers {j : Json} (ordered : j.InOrder) (allow : levels.Allow j.depth) :
    Recovers Reader.value id levels j := by
  induction ordered generalizing levels with
  | null =>
    rintro _ ⟨⟩
    rfl
  | bool b =>
    rintro _ ⟨⟩
    rfl
  | number n =>
    rintro _ ⟨⟩
    rfl
  | string s =>
    rintro _ (_ | _ | _ | text | _ | _)
    simp only [Reader.value, text, Reader.sound, Except.map]
  | @array items all ih =>
    obtain ⟨inner, entered, left⟩ := allow.enter
    rintro _ (_ | _ | _ | _ | shown | _)
    have each : ∀ item ∈ items, Recovers Reader.value id inner item :=
      fun item member => ih item member (left.mono (depth_le_itemsDepth member))
    rw [← List.map_id items] at shown
    have again := recovers_items each shown
    simp only [Reader.value, entered, valueItems_eq_items, again, bind, Except.bind, pure,
      Except.pure]
  | @object members ascending all ih =>
    obtain ⟨inner, entered, left⟩ := allow.enter
    rintro _ (_ | _ | _ | _ | _ | shown)
    have each : ∀ member ∈ members, Recovers Reader.value id inner member.2 :=
      fun member found => ih member found (left.mono (depth_le_membersDepth found))
    have again := recovers_members each shown
    simp only [Reader.value, entered, again, bind, Except.bind, pure, Except.pure, objectOf,
      ascending.sortMembers_eq]

end

/-- Reads a text as a JSON value with so many levels of nesting. -/
def parseWithin (levels : Levels) (text : String) : Except ReadFault Json := do
  let (o, rest) := outlineOf text
  let j ← Reader.value levels o
  match rest with
  | some rest =>
    if (skipSpace rest).isEmpty then return j else Reader.malformed .trailingCharacters
  | none => return j

theorem parse_eq (text : String) : parse text = parseWithin (some nestingLimit) text := rfl

theorem parseWithin_append {levels : Levels} {j : Json} (ordered : j.InOrder)
    (readBack : ∀ n ∈ j.numbers, n.ReadsBack) (allow : levels.Allow j.depth) {space : List Char}
    (blank : ∀ c ∈ space, isSpace c = true) :
    parseWithin levels (j.compact ++ String.ofList space) = .ok j := by
  have ends : EndsNumeral space := by
    simpa using endsNumeral_blank blank endsNumeral_nil
  have skipped : skipSpace space = [] := List.dropWhile_eq_nil_iff.mpr blank
  obtain ⟨o, taken, shown⟩ := takeValue_spelled j readBack (spells_chars j)
    (3 * (chars j ++ space).length + 3) space (by simp only [List.length_append]; omega) ends
  have value : Reader.value levels o = .ok j := ordered.recovers allow o shown
  rw [compact, ← String.ofList_append, parseWithin, outlineOf_ofList, taken]
  dsimp only
  rw [value]
  dsimp only [bind, Except.bind]
  rw [skipped]
  rfl

theorem InOrder.objectOf {members : List (String × Json)}
    (all : ∀ member ∈ members, InOrder member.2) : InOrder (objectOf members) :=
  .object (sortMembers_ascending members) fun member found =>
    all member (mem_of_mem_sortMembers found)

mutual

theorem inOrder_of_value {levels : Levels} (o : Outline) {j : Json}
    (read : Reader.value levels o = .ok j) : InOrder j := by
  match o with
  | .null =>
    cases read
    exact .null
  | .bool b =>
    cases read
    exact .bool b
  | .number n =>
    obtain ⟨found, -, rfl⟩ := map_eq_ok_iff.mp read
    exact .number found
  | .string q =>
    obtain ⟨s, -, rfl⟩ := map_eq_ok_iff.mp read
    exact .string s
  | .list content ending =>
    obtain ⟨inner, -, read⟩ := bind_eq_ok_iff.mp read
    obtain ⟨found, items, read⟩ := bind_eq_ok_iff.mp read
    cases read
    exact .array (inOrder_of_valueItems content items)
  | .record content ending =>
    obtain ⟨inner, -, read⟩ := bind_eq_ok_iff.mp read
    obtain ⟨found, members, read⟩ := bind_eq_ok_iff.mp read
    cases read
    exact .objectOf (inOrder_of_valueMembers content members)
  | .broken fault => cases read

theorem inOrder_of_valueItems {levels : Levels} {ending : Option TextFault}
    (outlines : List Outline) {items : List Json}
    (all : Reader.valueItems levels ending outlines = .ok items) : ∀ j ∈ items, InOrder j := by
  match outlines with
  | [] =>
    obtain ⟨_, -, all⟩ := bind_eq_ok_iff.mp all
    cases all
    nofun
  | o :: rest =>
    obtain ⟨first, read, all⟩ := bind_eq_ok_iff.mp all
    obtain ⟨others, later, all⟩ := bind_eq_ok_iff.mp all
    cases all
    intro j member
    rcases List.mem_cons.mp member with rfl | member
    · exact inOrder_of_value o read
    · exact inOrder_of_valueItems rest later j member

theorem inOrder_of_valueMembers {levels : Levels} {ending : Option TextFault}
    (outlines : List (Quotation × Outline)) {members : List (String × Json)}
    (all : Reader.valueMembers levels ending outlines = .ok members) :
    ∀ member ∈ members, InOrder member.2 := by
  match outlines with
  | [] =>
    obtain ⟨_, -, all⟩ := bind_eq_ok_iff.mp all
    cases all
    nofun
  | (name, o) :: rest =>
    obtain ⟨_, -, all⟩ := bind_eq_ok_iff.mp all
    obtain ⟨first, read, all⟩ := bind_eq_ok_iff.mp all
    obtain ⟨others, later, all⟩ := bind_eq_ok_iff.mp all
    cases all
    intro member found
    rcases List.mem_cons.mp found with rfl | found
    · exact inOrder_of_value o read
    · exact inOrder_of_valueMembers rest later member found

end

theorem inOrder_of_parse {text : String} {j : Json} (parsed : parse text = .ok j) : InOrder j := by
  obtain ⟨o, read⟩ := run_eq_ok parsed
  exact inOrder_of_value o read

end Walkthrough.Json
