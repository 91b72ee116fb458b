import Walkthrough.Proofs.Play.Laws

/-!
Plays in series. Each is performed in the world that the one before it left, up to the first that
does not go on; what they come to one by one is gathered in the end.
-/
namespace Walkthrough

variable {σ α β : Type}

/-- The play came to a result with which a series goes on. -/
def Course.GoesOn (goesOn : α → Bool) (c : Course σ α) : Prop :=
  ∃ a, c.result = some a ∧ goesOn a = true

/-- The world that courses in a row leave when the first begins in the given one. -/
def World.afterAll (w : World σ) : List (Course σ α) → World σ
  | [] => w
  | c :: rest => c.world.afterAll rest

namespace Play

/-- Performs plays one after another, up to the first that does not go on. -/
def inSeries (goesOn : α → Bool) : List (Play α) → Play (List α)
  | [] => return []
  | p :: rest => do
    let a ← p
    if goesOn a then
      let others ← inSeries goesOn rest
      return a :: others
    else return [a]

/-- What comes of plays in series, one by one. -/
structure Series (page : Page σ) (goesOn : α → Bool) (w : World σ) (plays : List (Play α))
    (courses : List (Course σ α)) : Prop where
  length_le : courses.length ≤ plays.length
  course : ∀ i c, courses[i]? = some c → ∃ p : Play α, plays[i]? = some p ∧
    c = p.perform page (w.afterAll (courses.take i))
  complete : (∀ c ∈ courses, c.GoesOn goesOn) → courses.length = plays.length
  stopped : ∀ i c, courses[i]? = some c → ¬ c.GoesOn goesOn → courses.length = i + 1

end Play

/-- The course of a whole whose parts have the given courses: it makes their calls in order, leaves
the last world, and gathers their results, unless one of them crashes. -/
structure Course.Gathers (gather : List α → β) (w : World σ) (parts : List (Course σ α))
    (c : Course σ β) : Prop where
  calls : c.calls = parts.flatMap (·.calls)
  world : c.world = w.afterAll parts
  result : ∀ results, parts.map (·.result) = results.map some → c.result = some (gather results)
  crashed : none ∈ parts.map (·.result) → c.result = none

theorem Course.exists_results_or_crashed (parts : List (Course σ α)) :
    (∃ results : List α, parts.map (·.result) = results.map some) ∨
      none ∈ parts.map (·.result) := by
  induction parts with
  | nil => exact .inl ⟨[], rfl⟩
  | cons c rest ih =>
    cases ended : c.result with
    | none => exact .inr (by simp [ended])
    | some a =>
      rcases ih with ⟨results, told⟩ | crashed
      · exact .inl ⟨a :: results, by simp [ended, told]⟩
      · exact .inr (List.mem_cons_of_mem _ crashed)

theorem Course.Gathers.results {gather : List α → β} {w : World σ} {parts : List (Course σ α)}
    {c : Course σ β} (h : c.Gathers gather w parts) {b : β} (ended : c.result = some b) :
    ∃ results : List α, parts.map (·.result) = results.map some ∧ b = gather results := by
  rcases exists_results_or_crashed parts with ⟨results, told⟩ | crashed
  · have whole := h.result results told
    exact ⟨results, told, Option.some.inj (ended.symm.trans whole)⟩
  · simp [h.crashed crashed] at ended

namespace Play

variable {page : Page σ} {goesOn : α → Bool} {w : World σ} {p : Play α} {rest : List (Play α)}

theorem series_nil : Series page goesOn w [] [] where
  length_le := Nat.le_refl 0
  course i c found := by simp at found
  complete _ := rfl
  stopped i c found := by simp at found

theorem series_stop (stops : ¬ (p.perform page w).GoesOn goesOn) :
    Series page goesOn w (p :: rest) [p.perform page w] where
  length_le := by simp
  course i c found := by
    obtain ⟨rfl, rfl⟩ : i = 0 ∧ p.perform page w = c := by
      cases i <;> simp_all
    exact ⟨p, rfl, rfl⟩
  complete all := absurd (all _ (by simp)) stops
  stopped i c found _ := by
    cases i with
    | zero => rfl
    | succ i => simp at found

theorem Series.next {courses : List (Course σ α)} (goes : (p.perform page w).GoesOn goesOn)
    (tail : Series page goesOn (p.perform page w).world rest courses) :
    Series page goesOn w (p :: rest) (p.perform page w :: courses) where
  length_le := Nat.succ_le_succ tail.length_le
  course i c found := by
    cases i with
    | zero =>
      obtain rfl : p.perform page w = c := by simpa using found
      exact ⟨p, rfl, rfl⟩
    | succ i => exact tail.course i c (by simpa using found)
  complete all := by
    simpa using tail.complete fun c member => all c (List.mem_cons_of_mem _ member)
  stopped i c found stops := by
    cases i with
    | zero =>
      obtain rfl : p.perform page w = c := by simpa using found
      exact absurd goes stops
    | succ i => simpa using tail.stopped i c (by simpa using found) stops

theorem inSeries_perform_last {a : α} (ended : (p.perform page w).result = some a)
    (stops : goesOn a = false) : (inSeries goesOn (p :: rest)).perform page w =
      ⟨some [a], (p.perform page w).calls, (p.perform page w).world⟩ := by
  rw [inSeries, perform_bind]
  simp only [Course.andThen, ended, stops, Bool.false_eq_true, if_false, perform_pure,
    List.append_nil]

theorem inSeries_perform_next {a : α} (ended : (p.perform page w).result = some a)
    (goes : goesOn a = true) : (inSeries goesOn (p :: rest)).perform page w =
      let d := (inSeries goesOn rest).perform page (p.perform page w).world
      ⟨d.result.map (a :: ·), (p.perform page w).calls ++ d.calls, d.world⟩ := by
  rw [inSeries, perform_bind]
  simp only [Course.andThen, ended, goes, if_true, perform_bind_pure]

theorem gathers_nil : ((inSeries goesOn []).perform page w).Gathers id w [] where
  calls := rfl
  world := rfl
  result results told := by
    obtain rfl : results = [] := by simpa using told.symm
    rfl
  crashed none_mem := by simp at none_mem

theorem gathers_crash (crashes : (p.perform page w).result = none) :
    ((inSeries goesOn (p :: rest)).perform page w).Gathers id w [p.perform page w] := by
  have whole : (inSeries goesOn (p :: rest)).perform page w =
      ⟨none, (p.perform page w).calls, (p.perform page w).world⟩ := by
    rw [inSeries, perform_bind]
    simp only [Course.andThen, crashes]
  rw [whole]
  refine ⟨by simp, rfl, fun results told => ?_, fun _ => rfl⟩
  cases results <;> simp [crashes] at told

theorem gathers_last {a : α} (ended : (p.perform page w).result = some a)
    (stops : goesOn a = false) :
    ((inSeries goesOn (p :: rest)).perform page w).Gathers id w [p.perform page w] := by
  rw [inSeries_perform_last ended stops]
  refine ⟨by simp, rfl, fun results told => ?_, fun none_mem => ?_⟩
  · obtain rfl : results = [a] := by
      rcases results with _ | ⟨b, _ | ⟨b', others⟩⟩ <;> simp_all
    rfl
  · simp [ended] at none_mem

theorem gathers_next {a : α} {courses : List (Course σ α)}
    (ended : (p.perform page w).result = some a) (goes : goesOn a = true)
    (tail : ((inSeries goesOn rest).perform page (p.perform page w).world).Gathers id
      (p.perform page w).world courses) :
    ((inSeries goesOn (p :: rest)).perform page w).Gathers id w
      (p.perform page w :: courses) := by
  rw [inSeries_perform_next ended goes]
  refine ⟨by simp [tail.calls], tail.world, fun results told => ?_, fun none_mem => ?_⟩
  · cases results with
    | nil => simp at told
    | cons b others =>
      simp only [List.map_cons, ended, List.cons.injEq, Option.some.injEq] at told
      obtain ⟨rfl, told⟩ := told
      simp [tail.result others told]
  · have later : none ∈ courses.map (·.result) := by simpa [ended] using none_mem
    simp [tail.crashed later]

theorem inSeries_perform (page : Page σ) (goesOn : α → Bool) (plays : List (Play α))
    (w : World σ) :
    ∃ courses, Series page goesOn w plays courses ∧
      ((inSeries goesOn plays).perform page w).Gathers id w courses := by
  induction plays generalizing w with
  | nil => exact ⟨[], series_nil, gathers_nil⟩
  | cons p rest ih =>
    cases ended : (p.perform page w).result with
    | none =>
      have stops : ¬ (p.perform page w).GoesOn goesOn := by
        rintro ⟨a, some_, -⟩
        simp [ended] at some_
      exact ⟨_, series_stop stops, gathers_crash ended⟩
    | some a =>
      cases goes : goesOn a with
      | false =>
        have stops : ¬ (p.perform page w).GoesOn goesOn := by
          rintro ⟨b, some_, on⟩
          obtain rfl : a = b := by simpa [ended] using some_
          simp [goes] at on
        exact ⟨_, series_stop stops, gathers_last ended goes⟩
      | true =>
        obtain ⟨courses, series, gathers⟩ := ih (p.perform page w).world
        exact ⟨_, series.next ⟨a, ended, goes⟩, gathers_next ended goes gathers⟩

theorem inSeries_bind_pure_perform (page : Page σ) (goesOn : α → Bool) (plays : List (Play α))
    (gather : List α → β) (w : World σ) :
    ∃ courses, Series page goesOn w plays courses ∧
      ((inSeries goesOn plays >>= fun results => pure (gather results)).perform page w).Gathers
        gather w courses := by
  obtain ⟨courses, series, gathers⟩ := inSeries_perform page goesOn plays w
  refine ⟨courses, series, ?_⟩
  rw [perform_bind_pure]
  exact ⟨gathers.calls, gathers.world, fun results told => by simp [gathers.result results told],
    fun none_mem => by simp [gathers.crashed none_mem]⟩

end Play

end Walkthrough
