import Walkthrough.Proofs.Json.Recovery

/-!
Members of objects that are built here. Each is found under its name, where of equal names the last
counts; when no name is given twice, the object has the given members and no others.
-/
namespace Walkthrough.Json

theorem lookup_insertMember (name : String) (value : Json) (members : List (String × Json))
    (key : String) :
    (insertMember name value members).lookup key = ((name, value) :: members).lookup key := by
  induction members with
  | nil => rfl
  | cons first rest ih =>
    obtain ⟨other, old⟩ := first
    rw [insertMember]
    split_ifs with before same
    · rfl
    · subst same
      by_cases here : key = name
      · subst here
        simp
      · have elsewhere : (key == name) = false := beq_eq_false_iff_ne.mpr here
        simp [List.lookup_cons, elsewhere]
    · rw [List.lookup_cons, ih]
      by_cases here : key = other
      · subst here
        have elsewhere : (key == name) = false := beq_eq_false_iff_ne.mpr (Ne.symm same)
        simp [List.lookup_cons, elsewhere]
      · have elsewhere : (key == other) = false := beq_eq_false_iff_ne.mpr here
        simp [List.lookup_cons, elsewhere]

theorem lookup_insertMembers (members sorted : List (String × Json)) (key : String) :
    (insertMembers members sorted).lookup key = (members.reverse ++ sorted).lookup key := by
  induction members generalizing sorted with
  | nil => rfl
  | cons first rest ih =>
    have next := ih (insertMember first.1 first.2 sorted)
    rw [List.lookup_append, lookup_insertMember, ← List.lookup_append] at next
    rw [List.reverse_cons, List.append_assoc]
    exact next

theorem member?_objectOf (members : List (String × Json)) (key : String) :
    (objectOf members).member? key = members.reverse.lookup key := by
  have found := lookup_insertMembers members [] key
  rw [List.append_nil] at found
  exact found

theorem lookup_of_mem {members : List (String × Json)} (distinct : (members.map (·.1)).Nodup)
    {name : String} {value : Json} (found : (name, value) ∈ members) :
    members.lookup name = some value := by
  induction members with
  | nil => cases found
  | cons first rest ih =>
    obtain ⟨absent, later⟩ := List.nodup_cons.mp distinct
    rcases List.mem_cons.mp found with rfl | found
    · exact List.lookup_cons_self
    · have other : (name == first.1) = false := by
        rw [beq_eq_false_iff_ne]
        rintro rfl
        exact absent (List.mem_map.mpr ⟨_, found, rfl⟩)
      rw [List.lookup_cons, other]
      exact ih later found

theorem member?_of_mem {members : List (String × Json)} (distinct : (members.map (·.1)).Nodup)
    {name : String} {value : Json} (found : (name, value) ∈ members) :
    (objectOf members).member? name = some value := by
  have backwards := ((List.reverse_perm members).map (·.1)).nodup_iff.mpr distinct
  rw [member?_objectOf]
  exact lookup_of_mem backwards (List.mem_reverse.mpr found)

theorem insertMember_perm {name : String} (value : Json) {members : List (String × Json)}
    (fresh : name ∉ members.map (·.1)) :
    (insertMember name value members).Perm ((name, value) :: members) := by
  induction members with
  | nil => exact .refl _
  | cons first rest ih =>
    obtain ⟨other, old⟩ := first
    rw [List.map_cons, List.mem_cons, not_or] at fresh
    rw [insertMember, if_neg fresh.1]
    split_ifs with before
    · exact .refl _
    · exact ((ih fresh.2).cons _).trans (.swap ..)

theorem insertMembers_perm {members sorted : List (String × Json)}
    (distinct : ((sorted ++ members).map (·.1)).Nodup) :
    (insertMembers members sorted).Perm (sorted ++ members) := by
  induction members generalizing sorted with
  | nil => simp [insertMembers]
  | cons first rest ih =>
    have moved : (sorted ++ first :: rest).Perm (first :: (sorted ++ rest)) := List.perm_middle
    have ahead := (moved.map (·.1)).nodup_iff.mp distinct
    have fresh : first.1 ∉ sorted.map (·.1) := by
      intro found
      refine (List.nodup_cons.mp ahead).1 ?_
      rw [List.map_append]
      exact List.mem_append_left _ found
    have placed : (insertMember first.1 first.2 sorted ++ rest).Perm (first :: (sorted ++ rest)) :=
      (insertMember_perm first.2 fresh).append_right rest
    have others := ih ((placed.map (·.1)).nodup_iff.mpr ahead)
    exact (others.trans placed).trans moved.symm

theorem sortMembers_perm {members : List (String × Json)} (distinct : (members.map (·.1)).Nodup) :
    (sortMembers members).Perm members :=
  @insertMembers_perm members [] distinct

end Walkthrough.Json
