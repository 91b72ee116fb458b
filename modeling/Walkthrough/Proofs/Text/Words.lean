import Mathlib.Data.List.Chain
import Mathlib.Logic.Relation
import Walkthrough.Text.Blank

/-!
Words of texts. A text has one sequence of words, the maximal runs of characters that are not blank,
and squeezing keeps it: squeezed texts are equal just when the words are.
-/
namespace Walkthrough.Text

def Blank (cs : List Char) : Prop := ∀ c ∈ cs, isBlank c = true

structure IsWord (word : List Char) : Prop where
  nonempty : word ≠ []
  solid : ∀ c ∈ word, isBlank c = false

def EndsWord : List Char → Prop
  | [] => True
  | c :: _ => isBlank c = true

/-- The words of a text. Each is a maximal run, as blanks or nothing come before and after it. -/
inductive Spaced : List Char → List (List Char) → Prop where
  | blank {gap : List Char} (blank : Blank gap) : Spaced gap []
  | word {gap word rest : List Char} {more : List (List Char)} (blank : Blank gap)
      (isWord : IsWord word) (ends : EndsWord rest) (later : Spaced rest more) :
      Spaced (gap ++ (word ++ rest)) (word :: more)

variable {cs ds gap rest word : List Char} {ws more : List (List Char)} {c : Char}

theorem blank_cons : Blank (c :: cs) ↔ isBlank c = true ∧ Blank cs := List.forall_mem_cons

theorem blank_append : Blank (cs ++ ds) ↔ Blank cs ∧ Blank ds := List.forall_mem_append

theorem Spaced.isWord (h : Spaced cs ws) : ∀ word ∈ ws, IsWord word := by
  induction h with
  | blank => exact nofun
  | word _ isWord _ _ ih => exact List.forall_mem_cons.mpr ⟨isWord, ih⟩

theorem words_cons_blank (blank : isBlank c = true) (cs : List Char) :
    words (c :: cs) = words cs := by
  rw [words.eq_def]
  exact if_pos blank

theorem words_blank_append (blank : Blank gap) (cs : List Char) : words (gap ++ cs) = words cs := by
  induction gap with
  | nil => rfl
  | cons c gap ih =>
    obtain ⟨first, later⟩ := blank_cons.mp blank
    rw [List.cons_append, words_cons_blank first, ih later]

theorem words_word_append (isWord : IsWord word) (ends : EndsWord rest) :
    words (word ++ rest) = word :: words rest := by
  obtain ⟨nonempty, solid⟩ := isWord
  induction word with
  | nil => exact absurd rfl nonempty
  | cons c word ih =>
    obtain ⟨first, later⟩ := List.forall_mem_cons.mp solid
    cases word with
    | nil =>
      cases rest with
      | nil => simp [words, first]
      | cons d rest =>
        have blank : isBlank d = true := ends
        simp [words, first, blank]
    | cons d word =>
      have next : isBlank d = false := later d List.mem_cons_self
      have tail := ih (List.cons_ne_nil d word) later
      rw [List.cons_append] at tail
      rw [List.cons_append, List.cons_append, words.eq_def]
      simp [first, next, tail]

theorem Spaced.words_eq (h : Spaced cs ws) : words cs = ws := by
  induction h with
  | @blank gap blank => simpa [words] using words_blank_append blank []
  | word blank isWord ends _ ih =>
    rw [words_blank_append blank, words_word_append isWord ends, ih]

theorem Spaced.begins (isWord : IsWord word) (ends : EndsWord rest) (later : Spaced rest more) :
    Spaced (word ++ rest) (word :: more) := @Spaced.word [] word rest more nofun isWord ends later

theorem Spaced.after_blank (blank : Blank gap) (h : Spaced cs ws) : Spaced (gap ++ cs) ws := by
  cases h with
  | blank other => exact .blank (blank_append.mpr ⟨blank, other⟩)
  | word other isWord ends later =>
    rw [← List.append_assoc]
    exact .word (blank_append.mpr ⟨blank, other⟩) isWord ends later

theorem Spaced.cons_blank (blank : isBlank c = true) (h : Spaced cs ws) : Spaced (c :: cs) ws := by
  have one : Blank [c] := blank_cons.mpr ⟨blank, nofun⟩
  exact h.after_blank one

theorem Spaced.after_solid (solid : isBlank c = false) (h : Spaced cs ws) :
    ∃ ws, Spaced (c :: cs) ws := by
  have alone : IsWord [c] := ⟨List.cons_ne_nil c [], by simpa using solid⟩
  cases h with
  | blank blank =>
    refine ⟨[[c]], .begins alone ?_ (.blank blank)⟩
    cases cs with
    | nil => trivial
    | cons d gap => exact (blank_cons.mp blank).1
  | @word gap word rest more blank isWord ends later =>
    cases gap with
    | nil =>
      have longer : IsWord (c :: word) :=
        ⟨List.cons_ne_nil c word, List.forall_mem_cons.mpr ⟨solid, isWord.solid⟩⟩
      exact ⟨_, .begins longer ends later⟩
    | cons d gap =>
      have apart : EndsWord (d :: gap ++ (word ++ rest)) := (blank_cons.mp blank).1
      exact ⟨_, .begins alone apart (.word blank isWord ends later)⟩

theorem exists_spaced (cs : List Char) : ∃ ws, Spaced cs ws := by
  induction cs with
  | nil => exact ⟨[], .blank nofun⟩
  | cons c cs ih =>
    obtain ⟨ws, h⟩ := ih
    cases kind : isBlank c with
    | true => exact ⟨ws, h.cons_blank kind⟩
    | false => exact h.after_solid kind

theorem spaced_iff : Spaced cs ws ↔ words cs = ws := by
  refine ⟨Spaced.words_eq, ?_⟩
  rintro rfl
  obtain ⟨ws, h⟩ := exists_spaced cs
  rwa [h.words_eq]

theorem spaced_words (cs : List Char) : Spaced cs (words cs) := spaced_iff.mpr rfl

theorem isWord_of_mem_words {word : List Char} (h : word ∈ words cs) : IsWord word :=
  (spaced_words cs).isWord word h

theorem Spaced.append (first : Spaced cs ws) (blank : isBlank c = true)
    (second : Spaced (c :: ds) more) : Spaced (cs ++ c :: ds) (ws ++ more) := by
  induction first with
  | blank gap => exact second.after_blank gap
  | @word gap word rest others gapBlank isWord ends later ih =>
    have ends' : EndsWord (rest ++ c :: ds) := by
      cases rest with
      | nil => exact blank
      | cons d rest => exact ends
    rw [List.append_assoc, List.append_assoc]
    exact .word gapBlank isWord ends' ih

theorem words_append_blank (some_ : gap ≠ []) (blank : Blank gap) (cs ds : List Char) :
    words (cs ++ (gap ++ ds)) = words cs ++ words ds := by
  cases gap with
  | nil => exact absurd rfl some_
  | cons c gap =>
    have later : Spaced (c :: gap ++ ds) (words ds) := (spaced_words ds).after_blank blank
    exact ((spaced_words cs).append (blank_cons.mp blank).1 later).words_eq

theorem spaced_joinWith (areWords : ∀ word ∈ ws, IsWord word) : Spaced (joinWith [' '] ws) ws := by
  induction ws with
  | nil => exact .blank nofun
  | cons word ws ih =>
    obtain ⟨isWord, others⟩ := List.forall_mem_cons.mp areWords
    cases ws with
    | nil =>
      have alone : Spaced (word ++ []) [word] := .begins isWord trivial (.blank nofun)
      simpa [joinWith] using alone
    | cons next ws =>
      have space : isBlank ' ' = true := rfl
      rw [joinWith, List.append_assoc]
      exact .begins isWord space ((ih others).cons_blank space)

theorem words_squeezeChars (cs : List Char) : words (squeezeChars cs) = words cs :=
  (spaced_joinWith fun _ => isWord_of_mem_words).words_eq

theorem squeezeChars_eq_iff : squeezeChars cs = squeezeChars ds ↔ words cs = words ds := by
  refine ⟨fun same => ?_, congrArg (joinWith [' '])⟩
  rw [← words_squeezeChars cs, same, words_squeezeChars]

theorem squeeze_eq_iff {s t : String} :
    squeeze s = squeeze t ↔ words s.toList = words t.toList :=
  ⟨fun same => squeezeChars_eq_iff.mp (String.ofList_injective same),
    fun same => congrArg String.ofList (squeezeChars_eq_iff.mpr same)⟩

theorem squeeze_squeeze (s : String) : squeeze (squeeze s) = squeeze s := by
  rw [squeeze_eq_iff, squeeze, String.toList_ofList, words_squeezeChars]

/-- Single spaces are the only blanks, and they stand between words. -/
structure Tidy (cs : List Char) : Prop where
  spaces : ∀ c ∈ cs, isBlank c = true → c = ' '
  front : ∀ c ∈ cs.head?, isBlank c = false
  back : ∀ c ∈ cs.getLast?, isBlank c = false
  single : cs.IsChain fun c d => isBlank c = false ∨ isBlank d = false

theorem IsWord.tidy (h : IsWord word) : Tidy word where
  spaces c mem blank := by simp [h.solid c mem] at blank
  front c mem := h.solid c (List.mem_of_mem_head? mem)
  back c mem := h.solid c (List.mem_of_mem_getLast? mem)
  single := (List.pairwise_of_forall_mem_list fun c mem _ _ => .inl (h.solid c mem)).isChain

theorem Tidy.after_word (h : Tidy cs) (some_ : cs ≠ []) (isWord : IsWord word) :
    Tidy (word ++ [' '] ++ cs) where
  spaces c mem blank := by
    simp only [List.mem_append, List.mem_singleton] at mem
    rcases mem with (inWord | space) | inRest
    · exact isWord.tidy.spaces c inWord blank
    · exact space
    · exact h.spaces c inRest blank
  front c mem := by
    obtain ⟨d, more, rfl⟩ := List.exists_cons_of_ne_nil isWord.nonempty
    exact isWord.tidy.front c mem
  back c mem := by
    rw [List.getLast?_append_of_ne_nil _ some_] at mem
    exact h.back c mem
  single := by
    have space : List.IsChain (fun c d => isBlank c = false ∨ isBlank d = false) (' ' :: cs) :=
      List.isChain_cons.mpr ⟨fun d mem => .inr (h.front d mem), h.single⟩
    rw [List.append_assoc]
    exact List.isChain_append.mpr ⟨isWord.tidy.single, space,
      fun c mem _ _ => .inl (isWord.tidy.back c mem)⟩

theorem tidy_joinWith (areWords : ∀ word ∈ ws, IsWord word) : Tidy (joinWith [' '] ws) := by
  induction ws with
  | nil => exact ⟨nofun, nofun, nofun, .nil⟩
  | cons word ws ih =>
    obtain ⟨isWord, others⟩ := List.forall_mem_cons.mp areWords
    cases ws with
    | nil => exact isWord.tidy
    | cons next ws =>
      have some_ : joinWith [' '] (next :: ws) ≠ [] := by
        intro none
        have same := (spaced_joinWith others).words_eq
        simp [none, words] at same
      exact (ih others).after_word some_ isWord

theorem tidy_squeeze (s : String) : Tidy (squeeze s).toList := by
  rw [squeeze, String.toList_ofList]
  exact tidy_joinWith fun _ => isWord_of_mem_words

/-- Blanks are changed between two words, where some have to be left, or at an end. -/
inductive Respaced : List Char → List Char → Prop where
  | between {before gap gap' after : List Char} (some_ : gap ≠ []) (some' : gap' ≠ [])
      (blank : Blank gap) (blank' : Blank gap') :
      Respaced (before ++ (gap ++ after)) (before ++ (gap' ++ after))
  | front {gap gap' rest : List Char} (blank : Blank gap) (blank' : Blank gap') :
      Respaced (gap ++ rest) (gap' ++ rest)
  | back {gap gap' rest : List Char} (blank : Blank gap) (blank' : Blank gap') :
      Respaced (rest ++ gap) (rest ++ gap')

def Respaces (s t : String) : Prop := Relation.ReflTransGen Respaced s.toList t.toList

theorem words_append_gap (blank : Blank gap) (cs : List Char) : words (cs ++ gap) = words cs := by
  cases gap with
  | nil => rw [List.append_nil]
  | cons c gap =>
    have split := words_append_blank (List.cons_ne_nil c gap) blank cs []
    rwa [List.append_nil, words, List.append_nil] at split

theorem Respaced.words_eq (h : Respaced cs ds) : words cs = words ds := by
  cases h with
  | between some_ some' blank blank' =>
    rw [words_append_blank some_ blank, words_append_blank some' blank']
  | front blank blank' => rw [words_blank_append blank, words_blank_append blank']
  | back blank blank' => rw [words_append_gap blank, words_append_gap blank']

theorem Respaces.squeeze_eq {s t : String} (h : Respaces s t) : squeeze s = squeeze t := by
  refine squeeze_eq_iff.mpr ?_
  unfold Respaces at h
  generalize t.toList = ds at h
  induction h with
  | refl => rfl
  | tail _ last ih => exact ih.trans last.words_eq

/-- One word is changed, or two words take the place of one, or one that of two. -/
inductive Reworded : List (List Char) → List (List Char) → Prop where
  | split {front back : List (List Char)} {u v : List Char} :
      Reworded (front ++ (u ++ v) :: back) (front ++ u :: v :: back)
  | joined {front back : List (List Char)} {u v : List Char} :
      Reworded (front ++ u :: v :: back) (front ++ (u ++ v) :: back)
  | added {front back : List (List Char)} {word : List Char} :
      Reworded (front ++ back) (front ++ word :: back)
  | dropped {front back : List (List Char)} {word : List Char} :
      Reworded (front ++ word :: back) (front ++ back)
  | changed {front back : List (List Char)} {word word' : List Char} (other : word ≠ word') :
      Reworded (front ++ word :: back) (front ++ word' :: back)

theorem Reworded.ne (h : Reworded ws more) : ws ≠ more := by
  intro same
  cases h with
  | split | joined | added | dropped => simpa using congrArg List.length same
  | changed other =>
    rw [List.append_cancel_left_eq, List.cons.injEq] at same
    exact other same.1

/-- The words of one text are those of the other with one such change. -/
def Rewords (s t : String) : Prop :=
  ∃ ws more, Spaced s.toList ws ∧ Spaced t.toList more ∧ Reworded ws more

theorem Rewords.squeeze_ne {s t : String} (h : Rewords s t) : squeeze s ≠ squeeze t := by
  obtain ⟨ws, more, first, second, reworded⟩ := h
  rw [ne_eq, squeeze_eq_iff, first.words_eq, second.words_eq]
  exact reworded.ne

end Walkthrough.Text
