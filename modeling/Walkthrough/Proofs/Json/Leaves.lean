import Walkthrough.Json.Plain

/-!
The plain text of arrays. However deep arrays are nested, the text is that of their leaves in order,
with commas between them. So it does not matter where the brackets inside of an array stand, as long
as there is something in them, nor how an item shows nothing.
-/
namespace Walkthrough

namespace Text

variable {separator : List Char} {front back pieces : List (List Char)}

theorem joinWith_append (some_ : front ≠ []) (others : back ≠ []) :
    joinWith separator (front ++ back) =
      joinWith separator front ++ separator ++ joinWith separator back := by
  induction front with
  | nil => exact absurd rfl some_
  | cons piece rest ih =>
    cases rest with
    | nil =>
      obtain ⟨next, more, rfl⟩ := List.exists_cons_of_ne_nil others
      rfl
    | cons next rest =>
      have later := ih (List.cons_ne_nil next rest)
      simp only [List.cons_append] at later ⊢
      simp only [joinWith, later, List.append_assoc]

theorem joinWith_joined (some_ : pieces ≠ []) :
    joinWith separator (joinWith separator pieces :: back) =
      joinWith separator (pieces ++ back) := by
  cases back with
  | nil => rw [List.append_nil, joinWith]
  | cons next rest => rw [joinWith, joinWith_append some_ (List.cons_ne_nil next rest)]

end Text

namespace Json

mutual

/-- The leaves of a value in order: all that is no array, and arrays of nothing. -/
def leaves : Json → List Json
  | .array (item :: rest) => leaves item ++ itemLeaves rest
  | leaf => [leaf]

def itemLeaves : List Json → List Json
  | [] => []
  | item :: rest => leaves item ++ itemLeaves rest

end

/-- What is seen of a leaf. A null and an array of nothing leave their place empty. -/
def leafText : Json → String
  | .null | .array [] => ""
  | .object _ => "[object Object]"
  | leaf => leaf.plain

/-- The second array is the first one changed at a place, however deep inside: an array of something
gives way to its items, a null to something else that shows nothing, or the members of an object,
which do not show, to others. -/
inductive Reshaped : List Json → List Json → Prop
  | unwrapped {items : List Json} (before after : List Json) (some_ : items ≠ []) :
      Reshaped (before ++ .array items :: after) (before ++ items ++ after)
  | emptyArray (before after : List Json) :
      Reshaped (before ++ .null :: after) (before ++ .array [] :: after)
  | emptyText (before after : List Json) :
      Reshaped (before ++ .null :: after) (before ++ .string "" :: after)
  | members (before after : List Json) (members others : List (String × Json)) :
      Reshaped (before ++ .object members :: after) (before ++ .object others :: after)
  | inside {items others : List Json} (before after : List Json) (deeper : Reshaped items others) :
      Reshaped (before ++ .array items :: after) (before ++ .array others :: after)

/-- The text of an array is that of its leaves, and no more than their texts counts. -/
structure ShowsLeaves (items : List Json) : Prop where
  joined : (Json.array items).plain =
    Text.join "," ((Json.array items).leaves.map leafText)
  /-- Nothing is left of the arrays but those of nothing. -/
  flat : ∀ leaf ∈ (Json.array items).leaves, ∀ inner, leaf = .array inner → inner = []
  reshaped : ∀ others, Reshaped items others → (Json.array others).plain = (Json.array items).plain

theorem leaves_array {items : List Json} (some_ : items ≠ []) :
    (Json.array items).leaves = itemLeaves items := by
  obtain ⟨item, rest, rfl⟩ := List.exists_cons_of_ne_nil some_
  rw [leaves, itemLeaves]

theorem leaves_ne_nil (j : Json) : j.leaves ≠ [] := by
  match j with
  | .array (item :: rest) =>
    rw [leaves]
    exact List.append_ne_nil_of_left_ne_nil (leaves_ne_nil item) _
  | .array [] => simp [leaves]
  | .null | .bool _ | .number _ | .string _ | .object _ => simp [leaves]

theorem itemLeaves_eq_flatMap (items : List Json) : itemLeaves items = items.flatMap leaves := by
  induction items with
  | nil => rfl
  | cons item rest ih => rw [itemLeaves, ih, List.flatMap_cons]

mutual

theorem leaves_flat (j : Json) : ∀ leaf ∈ j.leaves, ∀ inner, leaf = .array inner → inner = [] := by
  match j with
  | .array (item :: rest) =>
    rw [leaves]
    exact List.forall_mem_append.mpr ⟨leaves_flat item, itemLeaves_flat rest⟩
  | .array [] => simp [leaves]
  | .null | .bool _ | .number _ | .string _ | .object _ => simp [leaves]

theorem itemLeaves_flat (items : List Json) :
    ∀ leaf ∈ itemLeaves items, ∀ inner, leaf = .array inner → inner = [] := by
  match items with
  | [] => simp [itemLeaves]
  | item :: rest =>
    rw [itemLeaves]
    exact List.forall_mem_append.mpr ⟨leaves_flat item, itemLeaves_flat rest⟩

end

def itemChars : Json → List Char
  | .null => []
  | item => plainChars item

theorem plainItems_eq_map (items : List Json) : plainItems items = items.map itemChars := by
  induction items with
  | nil => rfl
  | cons item rest ih => cases item <;> simp only [plainItems, ih, List.map_cons, itemChars]

theorem itemChars_array (items : List Json) :
    itemChars (.array items) = Text.joinWith [','] (plainItems items) := rfl

mutual

theorem itemChars_eq (j : Json) :
    itemChars j = Text.joinWith [','] (j.leaves.map fun leaf => leaf.leafText.toList) := by
  match j with
  | .array (item :: rest) =>
    rw [leaves_array (List.cons_ne_nil item rest), itemChars_array, joinWith_plainItems]
  | .array [] => rfl
  | .null => rfl
  | .object members =>
    have shown : itemChars (.object members) = "[object Object]".toList := rfl
    simp only [leaves, List.map_cons, List.map_nil, Text.joinWith, shown, leafText]
  | .bool _ | .number _ | .string _ =>
    simp only [leaves, List.map_cons, List.map_nil, Text.joinWith, itemChars, leafText, plain,
      String.toList_ofList]

theorem joinWith_plainItems (items : List Json) : Text.joinWith [','] (plainItems items) =
    Text.joinWith [','] ((itemLeaves items).map fun leaf => leaf.leafText.toList) := by
  match items with
  | [] => rfl
  | item :: rest =>
    have pieces : (item.leaves.map fun leaf => leaf.leafText.toList) ≠ [] := by
      simpa using leaves_ne_nil item
    rw [plainItems_eq_map, List.map_cons, itemChars_eq item, Text.joinWith_joined pieces,
      itemLeaves, List.map_append, ← plainItems_eq_map]
    cases rest with
    | nil => rfl
    | cons next more =>
      have others : (itemLeaves (next :: more)).map (fun leaf => leaf.leafText.toList) ≠ [] := by
        rw [itemLeaves]
        simpa using fun none => absurd none (leaves_ne_nil next)
      have shown : plainItems (next :: more) ≠ [] := by
        rw [plainItems_eq_map]
        exact List.cons_ne_nil _ _
      rw [Text.joinWith_append pieces shown, joinWith_plainItems (next :: more),
        ← Text.joinWith_append pieces others]

end

theorem plain_array (items : List Json) : (Json.array items).plain =
    Text.join "," ((Json.array items).leaves.map leafText) := by
  have whole : plainChars (.array items) = _ := itemChars_eq (.array items)
  rw [plain, whole, Text.join, List.map_map]
  rfl

def leafTexts (items : List Json) : List String := (itemLeaves items).map leafText

theorem leafTexts_append (before after : List Json) :
    leafTexts (before ++ after) = leafTexts before ++ leafTexts after := by
  simp only [leafTexts, itemLeaves_eq_flatMap, List.flatMap_append, List.map_append]

theorem leafTexts_array {items : List Json} (some_ : items ≠ []) (after : List Json) :
    leafTexts (.array items :: after) = leafTexts (items ++ after) := by
  rw [leafTexts_append, leafTexts, itemLeaves, leaves_array some_, List.map_append]
  rfl

namespace Reshaped

variable {items others : List Json}

theorem ne_nil (h : Reshaped items others) : items ≠ [] ∧ others ≠ [] := by
  cases h with
  | unwrapped before after some_ => simp [some_]
  | _ => simp

theorem leafTexts_eq (h : Reshaped items others) : leafTexts others = leafTexts items := by
  induction h with
  | unwrapped before after some_ =>
    rw [List.append_assoc, leafTexts_append before, leafTexts_append before, leafTexts_array some_]
  | emptyArray before after => rw [leafTexts_append, leafTexts_append]; rfl
  | emptyText before after => rw [leafTexts_append, leafTexts_append]; rfl
  | members before after members others => rw [leafTexts_append, leafTexts_append]; rfl
  | inside before after deeper ih =>
    obtain ⟨some_, others_⟩ := deeper.ne_nil
    rw [leafTexts_append, leafTexts_append, leafTexts_array some_, leafTexts_array others_,
      leafTexts_append, leafTexts_append, ih]

end Reshaped

/-- An array shows its leaves in order, whichever arrays they stand in. -/
theorem array_shows_leaves (items : List Json) : ShowsLeaves items where
  joined := plain_array items
  flat := leaves_flat (.array items)
  reshaped others h := by
    obtain ⟨some_, others_⟩ := h.ne_nil
    have same : (Json.array others).leaves.map leafText =
        (Json.array items).leaves.map leafText := by
      rw [leaves_array some_, leaves_array others_]
      exact h.leafTexts_eq
    rw [plain_array, plain_array, same]

def nested : List Json := [.string "a", .array [.null, .array []], .array [.array [.bool true]]]

/-- Brackets do not show, but an array of nothing has its place, which an empty text can take. -/
theorem nested_shows_leaves :
    (Json.array nested).plain = "a,,,true" ∧
      (Json.array [.string "a", .array [.string "", .array []],
        .array [.array [.bool true]]]).plain = "a,,,true" := by
  obtain ⟨joined, -, reshaped⟩ := array_shows_leaves nested
  have shown : (Json.array nested).plain = "a,,,true" := joined.trans (by decide +kernel)
  have inner : Reshaped [.null, .array []] [.string "", .array []] := .emptyText [] [.array []]
  have outer := Reshaped.inside [.string "a"] [.array [.array [.bool true]]] inner
  exact ⟨shown, (reshaped _ outer).trans shown⟩

end Json

end Walkthrough
