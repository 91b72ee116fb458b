import Walkthrough.Fault.Step

/-!
How a target is narrowed, move by move. The last narrowing to an index decides which element is
meant; where there is none, the first element that was asked for does. The locator never changes,
and a target with an index is its own only element.
-/
namespace Walkthrough

namespace Target

inductive Move where
  | element (place : Nat)
  | narrowed (index : Option Nat)
deriving DecidableEq, Repr

namespace Move

def apply (t : Target) : Move → Target
  | .element place => t.element place
  | .narrowed index => t.narrowed index

def index? : Move → Option Nat
  | .narrowed index => index
  | .element _ => none

def place? : Move → Option Nat
  | .element place => some place
  | .narrowed _ => none

end Move

def after (t : Target) (moves : List Move) : Target := moves.foldl Move.apply t

def indices (moves : List Move) : List Nat := moves.filterMap Move.index?

def places (moves : List Move) : List Nat := moves.filterMap Move.place?

/-- The target is each of its own elements, and only moves that narrow to another index lead away
from it. -/
structure Settled (t : Target) : Prop where
  element : ∀ place, t.element place = t
  narrowed : ∀ moves, t.after moves ≠ t →
    ∃ index, .narrowed (some index) ∈ moves ∧ t.nth ≠ some index

structure LeadFrom (base : Target) (moves : List Move) : Prop where
  locator : (base.after moves).locator = base.locator
  nth : (base.after moves).nth = (indices moves).getLast?.or (places moves).head?
  settled : (base.after moves).nth.isSome ↔ (base.after moves).Settled

theorem element_eq (t : Target) (place : Nat) :
    t.element place = { t with nth := t.nth.or (some place) } := by
  obtain ⟨locator, nth⟩ := t
  cases nth <;> rfl

theorem narrowed_eq (t : Target) (index : Option Nat) :
    t.narrowed index = { t with nth := index.or t.nth } := by
  cases index <;> rfl

theorem apply_eq (t : Target) (m : Move) :
    m.apply t = { t with nth := m.index?.or (t.nth.or m.place?) } := by
  cases m with
  | element place => exact element_eq t place
  | narrowed index => simp only [Move.apply, Move.index?, Move.place?, narrowed_eq, Option.or_none]

theorem getLast?_indices_cons (m : Move) (rest : List Move) :
    (indices (m :: rest)).getLast? = (indices rest).getLast?.or m.index? := by
  unfold indices
  cases narrows : m.index? with
  | none => rw [List.filterMap_cons_none narrows, Option.or_none]
  | some index => rw [List.filterMap_cons_some narrows, List.getLast?_cons, Option.or_some]

theorem head?_places_cons (m : Move) (rest : List Move) :
    (places (m :: rest)).head? = m.place?.or (places rest).head? := by
  unfold places
  cases asks : m.place? with
  | none => rw [List.filterMap_cons_none asks, Option.none_or]
  | some place => rw [List.filterMap_cons_some asks, List.head?_cons, Option.some_or]

/-- An index to come outranks the one that is there, which outranks a place to come. -/
theorem after_eq (t : Target) (moves : List Move) : t.after moves =
    { t with nth := (indices moves).getLast?.or (t.nth.or (places moves).head?) } := by
  induction moves generalizing t with
  | nil =>
    change t = { t with nth := Option.or none (t.nth.or none) }
    rw [Option.none_or, Option.or_none]
  | cons m rest ih =>
    have first : t.after (m :: rest) = (m.apply t).after rest := rfl
    rw [first, ih, apply_eq, getLast?_indices_cons, head?_places_cons]
    -- The first move's index and place stand next to what was there, on either side of it.
    simp only [Option.or_assoc]

theorem mem_of_mem_indices {moves : List Move} {index : Nat} (narrows : index ∈ indices moves) :
    Move.narrowed (some index) ∈ moves := by
  obtain ⟨m, made, told⟩ := List.mem_filterMap.mp narrows
  cases m with
  | element place => cases told
  | narrowed wanted =>
    obtain rfl : wanted = some index := told
    exact made

theorem settled_iff (t : Target) : t.Settled ↔ t.nth.isSome := by
  constructor
  · intro settled
    have first : (t.element 0).nth.isSome := by
      rw [element_eq]
      simp
    rwa [settled.element] at first
  · intro held
    obtain ⟨n, nth⟩ := Option.isSome_iff_exists.mp held
    refine ⟨fun place => ?_, fun moves moved => ?_⟩
    · rw [element_eq, nth, Option.some_or, ← nth]
    · rw [after_eq, nth, Option.some_or] at moved
      cases last : (indices moves).getLast? with
      | none =>
        rw [last, Option.none_or, ← nth] at moved
        exact absurd rfl moved
      | some index =>
        refine ⟨index, mem_of_mem_indices (List.mem_of_getLast? last), fun same => moved ?_⟩
        rw [last, Option.some_or, ← same]

theorem leadFrom_of_unnarrowed {base : Target} (whole : base.nth = none) (moves : List Move) :
    base.LeadFrom moves where
  locator := by rw [after_eq]
  nth := by rw [after_eq, whole, Option.none_or]
  settled := (settled_iff _).symm

end Target

theorem Strategy.locator?_isSome_iff (selector : String) (strategy : Strategy) :
    (strategy.locator? selector).isSome ↔ ∀ name, strategy ≠ .unknown name := by
  cases strategy <;> simp [Strategy.locator?]

theorem Selection.target?_of_locator {s : Selection} {selector : String} {locator : Locator}
    (selects : s.selector? = some selector)
    (located : s.strategyUsed.locator? selector = some locator) :
    s.target? = .ok (some ((Target.mk locator none).after [.narrowed (indexOf? s.nth)])) := by
  simp only [target?, selects, located]
  rfl

namespace Target

/-- A supported strategy makes a target of every selector. Whatever moves follow, they leave the
locator alone, and the index is the one narrowed to last or else the place asked for first. -/
theorem last_narrowing_counts (selector : String) (strategy : Strategy)
    (supported : ∀ name, strategy ≠ .unknown name) :
    ∃ locator, strategy.locator? selector = some locator ∧
      (∀ s : Selection, s.selector? = some selector → s.strategyUsed = strategy →
        s.target? = .ok (some ((Target.mk locator none).after [.narrowed (indexOf? s.nth)]))) ∧
      ∀ moves, (Target.mk locator none).LeadFrom moves := by
  obtain ⟨locator, located⟩ :=
    Option.isSome_iff_exists.mp ((strategy.locator?_isSome_iff selector).mpr supported)
  refine ⟨locator, located, fun s selects used => ?_, leadFrom_of_unnarrowed rfl⟩
  subst used
  exact Selection.target?_of_locator selects located

namespace Sample

def detour : List Move :=
  [.narrowed none, .element 3, .element 0, .narrowed (some 1), .narrowed none, .element 2]

/-- Up to the third move the first element counts, then the index. -/
theorem cell_last_narrowing :
    (∀ name, Strategy.testId ≠ .unknown name) ∧
      ((Target.mk (.testId "cell") none).after (detour.take 3)).nth = some 3 ∧
      ((Target.mk (.testId "cell") none).after detour).locator = .testId "cell" ∧
      ((Target.mk (.testId "cell") none).after detour).nth = some 1 ∧
      ((Target.mk (.testId "cell") none).after detour).Settled ∧
      Selection.target? ⟨some "cell", some .testId, some 4⟩ =
        .ok (some ⟨.testId "cell", some 4⟩) := by
  have supported (name : String) : Strategy.testId ≠ .unknown name := nofun
  obtain ⟨locator, located, selected, leads⟩ := last_narrowing_counts "cell" .testId supported
  obtain rfl : .testId "cell" = locator := Option.some.inj located
  have first := (leads (detour.take 3)).nth
  obtain ⟨same, last, settled⟩ := leads detour
  exact ⟨supported, first, same, last, settled.mp (by rw [last]; rfl),
    selected ⟨some "cell", some .testId, some 4⟩ (by decide) rfl⟩

end Sample

end Target

end Walkthrough
