import Walkthrough.Page.Memory

/-!
Elements that go away while their places are counted up. Whoever removes the element at one place
after the other, each among those that are left by then, leaves out every second one.
-/
namespace Walkthrough.MemoryPage

variable {key : String} {elements : List Element}

def amount (key : String) (elements : List Element) : Nat := elements.countP (·.key == key)

/-- The elements but for those of a key that stand at an even place among their like; so many of
these stand before. -/
def spared (key : String) : Nat → List Element → List Element
  | _, [] => []
  | before, e :: rest =>
    if e.key = key then
      if before % 2 = 0 then spared key (before + 1) rest
      else e :: spared key (before + 1) rest
    else e :: spared key before rest

/-- The elements without the one of a key at some place and every second from there on. -/
def thinned (key : String) : Nat → List Element → List Element
  | _, [] => []
  | place, e :: rest =>
    if e.key = key then
      match place with
      | 0 => thinned key 1 rest
      | place + 1 => e :: thinned key place rest
    else e :: thinned key place rest

theorem amount_cons_of_key {e : Element} (same : e.key = key) :
    amount key (e :: elements) = amount key elements + 1 := by
  simp [amount, same]

theorem amount_cons_of_ne {e : Element} (other : e.key ≠ key) :
    amount key (e :: elements) = amount key elements := by
  simp [amount, other]

theorem amount_dropAt {place : Nat} (there : place < amount key elements) :
    amount key (dropAt key place elements) + 1 = amount key elements := by
  induction elements generalizing place with
  | nil => simp [amount] at there
  | cons e rest ih =>
    by_cases same : e.key = key
    · rw [amount_cons_of_key same] at there ⊢
      cases place with
      | zero => simp [dropAt, same]
      | succ place =>
        simp only [dropAt, same, if_true, amount_cons_of_key same]
        rw [ih (by omega)]
    · rw [amount_cons_of_ne same] at there ⊢
      simp only [dropAt, same, if_false, amount_cons_of_ne same]
      exact ih there

/-- To thin out from a place on is to remove the element there and to go on with the next place,
where by then the second one after it stands. -/
theorem thinned_dropAt (place : Nat) (elements : List Element) :
    thinned key (place + 1) (dropAt key place elements) = thinned key place elements := by
  induction elements generalizing place with
  | nil => rfl
  | cons e rest ih =>
    by_cases same : e.key = key
    · cases place with
      | zero => simp [dropAt, thinned, same]
      | succ place => simp [dropAt, thinned, same, ih]
    · simp [dropAt, thinned, same, ih]

theorem thinned_of_amount_le {place : Nat} (beyond : amount key elements ≤ place) :
    thinned key place elements = elements := by
  induction elements generalizing place with
  | nil => rfl
  | cons e rest ih =>
    by_cases same : e.key = key
    · rw [amount_cons_of_key same] at beyond
      obtain ⟨place, rfl⟩ : ∃ n, place = n + 1 := ⟨place - 1, by omega⟩
      simp [thinned, same, ih (Nat.le_of_succ_le_succ beyond)]
    · rw [amount_cons_of_ne same] at beyond
      simp [thinned, same, ih beyond]

/-- The first to go from the start on is the first that stands at an even place. -/
theorem thinned_eq_spared (before : Nat) (elements : List Element) :
    thinned key (before % 2) elements = spared key before elements := by
  induction elements generalizing before with
  | nil => rfl
  | cons e rest ih =>
    have next := ih (before + 1)
    by_cases same : e.key = key
    -- With every element of the key the place of the next to go changes between 0 and 1.
    · rcases Nat.mod_two_eq_zero_or_one before with even | odd
      · rw [show (before + 1) % 2 = 1 by omega] at next
        simp [thinned, spared, same, even, next]
      · rw [show (before + 1) % 2 = 0 by omega] at next
        simp [thinned, spared, same, odd, next]
    · simp [thinned, spared, same, ih]

end Walkthrough.MemoryPage
