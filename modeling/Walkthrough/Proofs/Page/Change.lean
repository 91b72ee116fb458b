import Walkthrough.Proofs.Page.Removal

/-!
Elements that are changed while their places are counted up. Nothing goes away, so every place is
that of the same element throughout, and each element is changed once.
-/
namespace Walkthrough.MemoryPage

variable {key : String} {f : Element → Element}

/-- The first so many elements of a key are changed, and all others stay as they are. -/
def changedFirst (key : String) (f : Element → Element) : Nat → List Element → List Element
  | _, [] => []
  | count, e :: rest =>
    if e.key = key then
      match count with
      | 0 => e :: rest
      | count + 1 => f e :: changedFirst key f count rest
    else e :: changedFirst key f count rest

theorem changedFirst_zero (elements : List Element) : changedFirst key f 0 elements = elements := by
  induction elements with
  | nil => rfl
  | cons e rest ih =>
    by_cases same : e.key = key
    · simp only [changedFirst, same, if_true]
    · simp only [changedFirst, same, if_false, ih]

theorem changedFirst_of_amount_le {count : Nat} {elements : List Element}
    (all : amount key elements ≤ count) :
    changedFirst key f count elements = elements.map fun e => if e.key = key then f e else e := by
  induction elements generalizing count with
  | nil => rfl
  | cons e rest ih =>
    by_cases same : e.key = key
    · rw [amount_cons_of_key same] at all
      cases count with
      | zero => omega
      | succ count =>
        simp only [changedFirst, List.map_cons, same, if_true]
        rw [ih (by omega)]
    · rw [amount_cons_of_ne same] at all
      simp only [changedFirst, List.map_cons, same, if_false]
      rw [ih all]

section

variable (keeps : ∀ e, (f e).key = e.key)
include keeps

theorem change_changedFirst (count : Nat) (elements : List Element) :
    change key f count (changedFirst key f count elements) =
      changedFirst key f (count + 1) elements := by
  induction elements generalizing count with
  | nil => rfl
  | cons e rest ih =>
    by_cases same : e.key = key
    · cases count with
      | zero => simp only [changedFirst, change, same, if_true, changedFirst_zero]
      | succ count => simp only [changedFirst, change, keeps, same, if_true, ih]
    · simp only [changedFirst, change, same, if_false, ih]

theorem amount_changedFirst (count : Nat) (elements : List Element) :
    amount key (changedFirst key f count elements) = amount key elements := by
  induction elements generalizing count with
  | nil => rfl
  | cons e rest ih =>
    by_cases same : e.key = key
    · cases count with
      | zero => simp only [changedFirst, same, if_true]
      | succ count =>
        simp only [changedFirst, same, if_true]
        rw [amount_cons_of_key ((keeps e).trans same), amount_cons_of_key same, ih]
    · simp only [changedFirst, same, if_false]
      rw [amount_cons_of_ne same, amount_cons_of_ne same, ih]

end

theorem change_id (place : Nat) (elements : List Element) :
    change key id place elements = elements := by
  induction elements generalizing place with
  | nil => rfl
  | cons e rest ih =>
    by_cases same : e.key = key
    · cases place with
      | zero => simp only [change, same, if_true, id]
      | succ place => simp only [change, same, if_true, ih]
    · simp only [change, same, if_false, ih]

end Walkthrough.MemoryPage
