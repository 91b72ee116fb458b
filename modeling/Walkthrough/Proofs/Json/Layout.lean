import Walkthrough.Proofs.Json.Written

/-!
Texts of a value. Space may stand between the parts of a text, and the outline of any such text
shows the value, as long as the numbers in the value are read as they are written. Compact and
indented text are two of them.
-/
namespace Walkthrough.Json

def Blank (cs : List Char) : Prop := ∀ c ∈ cs, isSpace c = true

theorem blank_nil : Blank [] := nofun

theorem blank_newLine (depth : Nat) : Blank (newLine depth) := by
  intro c member
  rcases List.mem_cons.mp member with rfl | member
  · rfl
  · rw [List.eq_of_mem_replicate member]
    rfl

section

variable {gap : List Char} (space : Blank gap) (cs : List Char)
include space

theorem skipSpace_append : skipSpace (gap ++ cs) = skipSpace cs :=
  List.dropWhile_append_of_pos space

theorem takeValue_blank (fuel : Nat) : takeValue fuel (gap ++ cs) = takeValue fuel cs := by
  cases fuel with
  | zero => rfl
  | succ fuel => rw [takeValue, takeValue, skipSpace_append space]

theorem endsNumeral_blank {cs : List Char} (ends : EndsNumeral cs) : EndsNumeral (gap ++ cs) := by
  cases gap with
  | nil => exact ends
  | cons c rest =>
    rintro _ ⟨⟩
    have is := space c List.mem_cons_self
    simp only [isSpace, Bool.or_eq_true, decide_eq_true_eq] at is
    rcases is with ((rfl | rfl) | rfl) | rfl <;> decide

end

def memberText (name : String) (before after value : List Char) : List Char :=
  stringChars name ++ (before ++ ':' :: (after ++ value))

mutual

/-- The text is one of the value. -/
inductive Spells : Json → List Char → Prop
  | null : Spells .null (chars .null)
  | bool (b : Bool) : Spells (.bool b) (chars (.bool b))
  | number (n : JsonNumber) : Spells (.number n) (numberChars n)
  | string (s : String) : Spells (.string s) (stringChars s)
  | noItems {gap : List Char} (space : Blank gap) : Spells (.array []) ('[' :: (gap ++ [']']))
  | items {item : Json} {rest : List Json} {gap first others : List Char} (space : Blank gap)
      (head : Spells item first) (tail : SpellsItems rest others) :
      Spells (.array (item :: rest)) ('[' :: (gap ++ (first ++ others)))
  | noMembers {gap : List Char} (space : Blank gap) :
      Spells (.object []) ('\x7b' :: (gap ++ ['\x7d']))
  | members {name : String} {value : Json} {rest : List (String × Json)}
      {gap before after first others : List Char} (space : Blank gap) (front : Blank before)
      (back : Blank after) (head : Spells value first) (tail : SpellsMembers rest others) :
      Spells (.object ((name, value) :: rest))
        ('\x7b' :: (gap ++ (memberText name before after first ++ others)))

inductive SpellsItems : List Json → List Char → Prop
  | nil {gap : List Char} (space : Blank gap) : SpellsItems [] (gap ++ [']'])
  | cons {item : Json} {rest : List Json} {lead gap first others : List Char} (early : Blank lead)
      (space : Blank gap) (head : Spells item first) (tail : SpellsItems rest others) :
      SpellsItems (item :: rest) (lead ++ ',' :: (gap ++ (first ++ others)))

inductive SpellsMembers : List (String × Json) → List Char → Prop
  | nil {gap : List Char} (space : Blank gap) : SpellsMembers [] (gap ++ ['\x7d'])
  | cons {name : String} {value : Json} {rest : List (String × Json)}
      {lead gap before after first others : List Char} (early : Blank lead) (space : Blank gap)
      (front : Blank before) (back : Blank after) (head : Spells value first)
      (tail : SpellsMembers rest others) :
      SpellsMembers ((name, value) :: rest)
        (lead ++ ',' :: (gap ++ (memberText name before after first ++ others)))

end

variable {j : Json} {cs : List Char}

theorem Spells.cons (spelled : Spells j cs) :
    ∃ c rest, cs = c :: rest ∧ isSpace c = false ∧ c ≠ ']' := by
  cases spelled with
  | null => exact ⟨'n', _, rfl, rfl, by decide⟩
  | bool b => cases b <;> exact ⟨_, _, rfl, rfl, by decide⟩
  | number n =>
    obtain ⟨c, rest, written, front⟩ := numberChars_cons n
    refine ⟨c, rest, written, (numberChars_chars n c (written ▸ List.mem_cons_self)).not_space, ?_⟩
    rintro rfl
    rcases front with same | digit
    · cases same
    · cases digit
  | string s => exact ⟨'"', _, rfl, rfl, by decide⟩
  | noItems | items => exact ⟨'[', _, rfl, rfl, by decide⟩
  | noMembers | members => exact ⟨'\x7b', _, rfl, rfl, by decide⟩

theorem Spells.length_pos (spelled : Spells j cs) : 0 < cs.length := by
  obtain ⟨c, rest, rfl, -⟩ := spelled.cons
  exact Nat.succ_pos _

section

variable {items : List Json} {members : List (String × Json)}

theorem SpellsItems.length_pos (spelled : SpellsItems items cs) : 0 < cs.length := by
  cases spelled <;> simp only [List.length_append, List.length_cons] <;> omega

theorem SpellsMembers.length_pos (spelled : SpellsMembers members cs) : 0 < cs.length := by
  cases spelled <;> simp only [List.length_append, List.length_cons] <;> omega

theorem SpellsItems.endsNumeral (spelled : SpellsItems items cs) (tail : List Char) :
    EndsNumeral (cs ++ tail) := by
  cases spelled with
  | nil space =>
    rw [List.append_assoc]
    refine endsNumeral_blank space ?_
    rintro _ ⟨⟩
    decide
  | cons early space head others =>
    rw [List.append_assoc]
    refine endsNumeral_blank early ?_
    rintro _ ⟨⟩
    decide

theorem SpellsMembers.endsNumeral (spelled : SpellsMembers members cs) (tail : List Char) :
    EndsNumeral (cs ++ tail) := by
  cases spelled with
  | nil space =>
    rw [List.append_assoc]
    refine endsNumeral_blank space ?_
    rintro _ ⟨⟩
    decide
  | cons early space front back head others =>
    rw [List.append_assoc]
    refine endsNumeral_blank early ?_
    rintro _ ⟨⟩
    decide

end

section

variable {o : Outline} {fuel : Nat} {gap middle tail : List Char}

theorem takeFirstItem_spelled {os : List Outline} (space : Blank gap) (spelled : Spells j cs)
    (taken : takeValue fuel (cs ++ middle) = (o, some middle))
    (others : takeItems fuel middle = ((os, none), some tail)) :
    takeFirstItem (fuel + 1) (gap ++ (cs ++ middle)) = ((o :: os, none), some tail) := by
  obtain ⟨c, rest, rfl, solid, other⟩ := spelled.cons
  rw [List.cons_append] at taken ⊢
  rw [takeFirstItem, skipSpace_append space, skipSpace_cons _ solid]
  simp only [if_neg other, taken, others]

theorem takeItems_spelled {os : List Outline} {lead : List Char} (early : Blank lead)
    (space : Blank gap) (spelled : Spells j cs)
    (taken : takeValue fuel (cs ++ middle) = (o, some middle))
    (others : takeItems fuel middle = ((os, none), some tail)) :
    takeItems (fuel + 1) (lead ++ ',' :: (gap ++ (cs ++ middle))) =
      ((o :: os, none), some tail) := by
  obtain ⟨c, rest, rfl, solid, other⟩ := spelled.cons
  rw [List.cons_append] at taken ⊢
  rw [takeItems, skipSpace_append early, skipSpace_cons _ rfl]
  dsimp only
  rw [if_neg (by decide), if_pos rfl, skipSpace_append space, skipSpace_cons _ solid]
  split
  · rename_i same
    cases same
    exact absurd rfl other
  · simp only [taken, others]

theorem takeMember_spelled (name : String) {os : List (Quotation × Outline)}
    {before after : List Char} (front : Blank before) (back : Blank after)
    (taken : takeValue fuel (cs ++ middle) = (o, some middle))
    (others : takeMembers fuel middle = ((os, none), some tail)) :
    ∃ rest q, memberText name before after cs ++ middle = '"' :: rest ∧
      takeMember (fuel + 1) rest = (((q, o) :: os, none), some tail) ∧ q.text = .ok name := by
  obtain ⟨rest, q, written, read, ending, text⟩ :=
    takeString_stringChars name (before ++ ':' :: (after ++ (cs ++ middle)))
  refine ⟨rest, q, by simpa [memberText] using written, ?_, text⟩
  rw [takeMember, read]
  dsimp only
  rw [ending, skipSpace_append front, skipSpace_cons _ rfl]
  simp only [Option.isSome_none, Bool.false_eq_true, if_false, ne_eq, not_true_eq_false,
    takeValue_blank back, taken, others]

end

mutual

theorem takeValue_spelled (j : Json) (readBack : ∀ n ∈ j.numbers, n.ReadsBack) {cs : List Char}
    (spelled : Spells j cs) (fuel : Nat) (tail : List Char) (enough : cs.length ≤ fuel)
    (ends : EndsNumeral tail) :
    ∃ o, takeValue fuel (cs ++ tail) = (o, some tail) ∧ o.Shows j := by
  -- On the structure of the value. No call takes more fuel than characters, so what is left of the
  -- fuel is enough for what is left of the text.
  have some := spelled.length_pos
  cases fuel with
  | zero => omega
  | succ fuel =>
    match j with
    | .null =>
      cases spelled
      exact ⟨.null, by simp [chars, takeValue, skipSpace_cons, isSpace, takenWord, takeWordRest],
        .null⟩
    | .bool b =>
      cases spelled
      refine ⟨.bool b, ?_, .bool b⟩
      cases b <;> simp [chars, takeValue, skipSpace_cons, isSpace, takenWord, takeWordRest]
    | .number n =>
      cases spelled
      exact ⟨.number (.ok n), takeValue_number (readBack n List.mem_cons_self) ends fuel, .number n⟩
    | .string s =>
      cases spelled
      obtain ⟨rest, q, written, taken, ending, text⟩ := takeString_stringChars s tail
      refine ⟨.string q, ?_, .string text⟩
      rw [written, takeValue, skipSpace_cons _ rfl]
      simp only [if_true, taken, ending, Option.isNone_none]
    | .array [] =>
      cases spelled with
      | @noItems gap space =>
        refine ⟨.list [] none, ?_, .array .nil⟩
        match fuel with
        | 0 => simp at enough
        | fuel + 1 =>
          simp [takeValue, takeFirstItem, skipSpace_append space, skipSpace_cons, isSpace]
    | .array (item :: rest) =>
      cases spelled with
      | @items _ _ gap first others space head later =>
        simp only [List.length_cons, List.length_append] at enough
        have := head.length_pos
        have := later.length_pos
        match fuel with
        | 0 => omega
        | fuel + 1 =>
          obtain ⟨o, taken, shown⟩ := takeValue_spelled item
            (fun n member => readBack n (List.mem_append_left _ member)) head fuel
            (others ++ tail) (by omega) (later.endsNumeral tail)
          obtain ⟨os, rest_, allShown⟩ := takeItems_spelledItems rest
            (fun n member => readBack n (List.mem_append_right _ member)) later fuel tail
            (by omega)
          refine ⟨.list (o :: os) none, ?_, .array (.cons shown allShown)⟩
          rw [List.cons_append, List.append_assoc, List.append_assoc, takeValue,
            skipSpace_cons _ rfl]
          simp only [Char.reduceEq, if_false, if_true,
            takeFirstItem_spelled space head taken rest_]
    | .object [] =>
      cases spelled with
      | @noMembers gap space =>
        refine ⟨.record [] none, ?_, .object .nil⟩
        match fuel with
        | 0 => simp at enough
        | fuel + 1 =>
          simp [takeValue, takeFirstMember, skipSpace_append space, skipSpace_cons, isSpace]
    | .object ((name, value) :: rest) =>
      cases spelled with
      | @members _ _ _ gap before after first others space front back head later =>
        simp only [memberText, List.length_cons, List.length_append] at enough
        have := head.length_pos
        have := later.length_pos
        -- A member takes fuel twice, for what stands before its name and for the name itself.
        match fuel with
        | 0 => omega
        | 1 => omega
        | fuel + 2 =>
          obtain ⟨o, taken, shown⟩ := takeValue_spelled value
            (fun n member => readBack n (List.mem_append_left _ member)) head fuel
            (others ++ tail) (by omega) (later.endsNumeral tail)
          obtain ⟨os, rest_, allShown⟩ := takeMembers_spelledMembers rest
            (fun n member => readBack n (List.mem_append_right _ member)) later fuel tail
            (by omega)
          obtain ⟨text, q, written, member, named⟩ :=
            takeMember_spelled name front back taken rest_
          refine ⟨.record ((q, o) :: os) none, ?_, .object (.cons named shown allShown)⟩
          rw [List.cons_append, List.append_assoc, List.append_assoc, written, takeValue,
            skipSpace_cons _ rfl]
          dsimp only
          rw [if_neg (by decide), if_neg (by decide), if_pos rfl, takeFirstMember,
            skipSpace_append space, skipSpace_cons _ rfl]
          dsimp only
          rw [if_neg (by decide), if_pos rfl, member]

theorem takeItems_spelledItems (items : List Json)
    (readBack : ∀ n ∈ itemNumbers items, n.ReadsBack) {cs : List Char}
    (spelled : SpellsItems items cs) (fuel : Nat) (tail : List Char) (enough : cs.length ≤ fuel) :
    ∃ os, takeItems fuel (cs ++ tail) = ((os, none), some tail) ∧
      Outline.ShowsItems os items := by
  have some := spelled.length_pos
  match items, fuel with
  | _, 0 => omega
  | [], fuel + 1 =>
    cases spelled with
    | @nil gap space =>
      exact ⟨[], by simp [takeItems, skipSpace_append space, skipSpace_cons, isSpace], .nil⟩
  | item :: rest, fuel + 1 =>
    cases spelled with
    | @cons _ _ lead gap first others early space head later =>
      simp only [List.length_cons, List.length_append] at enough
      obtain ⟨o, taken, shown⟩ := takeValue_spelled item
        (fun n member => readBack n (List.mem_append_left _ member)) head fuel (others ++ tail)
        (by omega) (later.endsNumeral tail)
      obtain ⟨os, rest_, allShown⟩ := takeItems_spelledItems rest
        (fun n member => readBack n (List.mem_append_right _ member)) later fuel tail (by omega)
      refine ⟨o :: os, ?_, .cons shown allShown⟩
      rw [List.append_assoc, List.cons_append, List.append_assoc, List.append_assoc]
      exact takeItems_spelled early space head taken rest_

theorem takeMembers_spelledMembers (members : List (String × Json))
    (readBack : ∀ n ∈ memberNumbers members, n.ReadsBack) {cs : List Char}
    (spelled : SpellsMembers members cs) (fuel : Nat) (tail : List Char)
    (enough : cs.length ≤ fuel) :
    ∃ os, takeMembers fuel (cs ++ tail) = ((os, none), some tail) ∧
      Outline.ShowsMembers os members := by
  have some := spelled.length_pos
  match members, fuel with
  | _, 0 => omega
  | [], fuel + 1 =>
    cases spelled with
    | @nil gap space =>
      exact ⟨[], by simp [takeMembers, skipSpace_append space, skipSpace_cons, isSpace], .nil⟩
  | (name, value) :: rest, 1 =>
    cases spelled with
    | cons early space front back head later =>
      have := head.length_pos
      simp only [memberText, List.length_cons, List.length_append] at enough
      omega
  | (name, value) :: rest, fuel + 2 =>
    cases spelled with
    | @cons _ _ _ lead gap before after first others early space front back head later =>
      simp only [memberText, List.length_cons, List.length_append] at enough
      obtain ⟨o, taken, shown⟩ := takeValue_spelled value
        (fun n member => readBack n (List.mem_append_left _ member)) head fuel (others ++ tail)
        (by omega) (later.endsNumeral tail)
      obtain ⟨os, rest_, allShown⟩ := takeMembers_spelledMembers rest
        (fun n member => readBack n (List.mem_append_right _ member)) later fuel tail (by omega)
      obtain ⟨text, q, written, member, named⟩ := takeMember_spelled name front back taken rest_
      refine ⟨(q, o) :: os, ?_, .cons named shown allShown⟩
      rw [List.append_assoc, List.cons_append, List.append_assoc, List.append_assoc, written,
        takeMembers, skipSpace_append early, skipSpace_cons _ rfl]
      dsimp only
      rw [if_neg (by decide), if_pos rfl, skipSpace_append space, skipSpace_cons _ rfl]
      dsimp only
      rw [if_pos rfl, member]

end

/-- What is read from a value's text, given a reader that reads it from any outline that shows the
value. -/
theorem run_spelled {α : Type} {read : Reader α} {a : α}
    (readBack : ∀ n ∈ j.numbers, n.ReadsBack) (spelled : Spells j cs)
    (value : ∀ o : Outline, o.Shows j → read (some nestingLimit) o = .ok a) :
    Reader.run read (String.ofList cs) = .ok a := by
  obtain ⟨o, taken, shown⟩ := takeValue_spelled j readBack spelled (3 * cs.length + 3) []
    (by omega) endsNumeral_nil
  rw [List.append_nil] at taken
  exact run_of_taken taken (value o shown)

mutual

theorem spells_chars (j : Json) : Spells j (chars j) := by
  match j with
  | .null => exact .null
  | .bool b => exact .bool b
  | .number n => exact .number n
  | .string s => exact .string s
  | .array [] => exact .noItems blank_nil
  | .array (item :: rest) =>
    exact .items blank_nil (spells_chars item) (spellsItems_itemsChars rest)
  | .object [] => exact .noMembers blank_nil
  | .object ((name, value) :: rest) =>
    have spelled : Spells (.object ((name, value) :: rest)) _ :=
      .members blank_nil blank_nil blank_nil (spells_chars value) (spellsMembers_membersChars rest)
    simpa [memberText, chars] using spelled

theorem spellsItems_itemsChars (items : List Json) : SpellsItems items (itemsChars items) := by
  match items with
  | [] => exact .nil blank_nil
  | item :: rest =>
    exact .cons blank_nil blank_nil (spells_chars item) (spellsItems_itemsChars rest)

theorem spellsMembers_membersChars (members : List (String × Json)) :
    SpellsMembers members (membersChars members) := by
  match members with
  | [] => exact .nil blank_nil
  | (name, value) :: rest =>
    have spelled : SpellsMembers ((name, value) :: rest) _ :=
      .cons blank_nil blank_nil blank_nil blank_nil (spells_chars value)
        (spellsMembers_membersChars rest)
    simpa [memberText, membersChars] using spelled

end

theorem run_compact {α : Type} {read : Reader α} {a : α}
    (readBack : ∀ n ∈ j.numbers, n.ReadsBack)
    (value : ∀ o : Outline, o.Shows j → read (some nestingLimit) o = .ok a) :
    Reader.run read j.compact = .ok a := run_spelled readBack (spells_chars j) value

theorem blank_space : Blank [' '] := by
  rintro c (_ | ⟨_, ⟨⟩⟩)
  rfl

mutual

theorem spells_indentedChars (depth : Nat) (j : Json) : Spells j (indentedChars depth j) := by
  match j with
  | .null => exact .null
  | .bool b => exact .bool b
  | .number n => exact .number n
  | .string s => exact .string s
  | .array [] => exact .noItems blank_nil
  | .array (item :: rest) =>
    have spelled := Spells.items (blank_newLine (depth + 1))
      (spells_indentedChars (depth + 1) item) (spellsItems_indentedItems depth rest)
    simpa [indentedChars] using spelled
  | .object [] => exact .noMembers blank_nil
  | .object ((name, value) :: rest) =>
    have spelled : Spells (.object ((name, value) :: rest)) _ :=
      .members (blank_newLine (depth + 1)) blank_nil blank_space
        (spells_indentedChars (depth + 1) value) (spellsMembers_indentedMembers depth rest)
    simpa [memberText, indentedChars] using spelled

theorem spellsItems_indentedItems (depth : Nat) (items : List Json) :
    SpellsItems items (indentedItems depth items) := by
  match items with
  | [] => exact .nil (blank_newLine depth)
  | item :: rest =>
    have spelled := SpellsItems.cons blank_nil (blank_newLine (depth + 1))
      (spells_indentedChars (depth + 1) item) (spellsItems_indentedItems depth rest)
    simpa [indentedItems] using spelled

theorem spellsMembers_indentedMembers (depth : Nat) (members : List (String × Json)) :
    SpellsMembers members (indentedMembers depth members) := by
  match members with
  | [] => exact .nil (blank_newLine depth)
  | (name, value) :: rest =>
    have spelled : SpellsMembers ((name, value) :: rest) _ :=
      .cons blank_nil (blank_newLine (depth + 1)) blank_nil blank_space
        (spells_indentedChars (depth + 1) value) (spellsMembers_indentedMembers depth rest)
    simpa [memberText, indentedMembers] using spelled

end

theorem run_indented {α : Type} {read : Reader α} {a : α}
    (readBack : ∀ n ∈ j.numbers, n.ReadsBack)
    (value : ∀ o : Outline, o.Shows j → read (some nestingLimit) o = .ok a) :
    Reader.run read j.indented = .ok a := run_spelled readBack (spells_indentedChars 0 j) value

end Walkthrough.Json
