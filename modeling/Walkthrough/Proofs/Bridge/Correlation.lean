import Mathlib.Data.List.SplitBy
import Mathlib.Data.List.TakeWhile
import Walkthrough.Bridge.Connection

/-!
Replies and their requests. A request that is given up leaves its reply to be read, where it is in
the way of a later request until that one passes over it.
-/
namespace Walkthrough.Bridge

theorem isLate_iff {id : Nat} {line : Line} :
    isLate id line = true ↔ ∃ reply, Reply.ofLine line = .ok reply ∧ reply.id < id := by
  unfold isLate
  cases Reply.ofLine line <;> simp

theorem isLate_succ {id : Nat} {line : Line} {reply : Reply} (read : Reply.ofLine line = .ok reply)
    (own : reply.id = id) : isLate (id + 1) line = true :=
  isLate_iff.mpr ⟨reply, read, Nat.lt_succ_of_le (Nat.le_of_eq own)⟩

theorem isLate_mono {id later : Nat} {line : Line} (le : id ≤ later)
    (late : isLate id line = true) : isLate later line = true := by
  obtain ⟨reply, read, below⟩ := isLate_iff.mp late
  exact isLate_iff.mpr ⟨reply, read, Nat.lt_of_lt_of_le below le⟩

theorem not_isLate {id : Nat} {line : Line} {reply : Reply} (read : Reply.ofLine line = .ok reply)
    (notBelow : id ≤ reply.id) : isLate id line = false := by
  simp only [isLate, read, decide_eq_false_iff_not, Nat.not_lt, notBelow]

/-- What a reply says of its request. -/
inductive Reply.Tells : Reply → Except PageFault Json → Prop
  | value {r : Reply} {v : Json} (ok : r.ok = true) (has : r.value = some v) : Tells r (.ok v)
  | nothing {r : Reply} (ok : r.ok = true) (none : r.value = none) : Tells r (.ok .null)
  | notFound {r : Reply} (failed : r.ok = false) (missing : r.notFound = true) :
      Tells r (.error (.notFound (r.error.getD "unknown bridge error")))
  | automation {r : Reply} (failed : r.ok = false) (present : r.notFound = false) :
      Tells r (.error (.automation (r.error.getD "unknown bridge error")))

theorem Reply.tells_iff {r : Reply} {x : Except PageFault Json} : r.Tells x ↔ x = r.result := by
  constructor
  · intro tells
    cases tells with
    | value ok has => simp [result, ok, has]
    | nothing ok none => simp [result, ok, none]
    | notFound failed missing => simp [result, failed, missing]
    | automation failed present => simp [result, failed, present]
  · rintro rfl
    cases ok : r.ok with
    | true =>
      cases has : r.value with
      | some v => simpa [result, ok, has] using Tells.value ok has
      | none => simpa [result, ok, has] using Tells.nothing ok has
    | false =>
      cases missing : r.notFound with
      | true => simpa [result, ok, missing] using Tells.notFound ok missing
      | false => simpa [result, ok, missing] using Tells.automation ok missing

/-- The line has its line break, and no other one. -/
def Whole (line : Line) : Prop := ∃ text, lineBreak ∉ text ∧ line = text ++ [lineBreak]

/-- The line ends before these bytes, be it only because there are none. -/
def EndsBefore (line : Line) (left : List UInt8) : Prop :=
  Whole line ∨ line ≠ [] ∧ lineBreak ∉ line ∧ left = []

theorem Whole.isFinished {line : Line} (whole : Whole line) : isFinished line = true := by
  obtain ⟨text, -, rfl⟩ := whole
  simp [Bridge.isFinished]

theorem EndsBefore.whole {line : Line} {left : List UInt8} (ends : EndsBefore line left)
    (finished : isFinished line = true) : Whole line := by
  rcases ends with whole | ⟨-, unbroken, -⟩
  · exact whole
  · have last : line.getLast? = some lineBreak := by simpa [isFinished] using finished
    exact absurd (List.mem_of_getLast? last) unbroken

theorem break_unique {text text' left left' : List UInt8} (unbroken : lineBreak ∉ text)
    (unbroken' : lineBreak ∉ text') (same : text ++ lineBreak :: left = text' ++ lineBreak :: left') :
    text = text' ∧ left = left' := by
  induction text generalizing text' with
  | nil =>
    cases text' with
    | nil => exact ⟨rfl, (List.cons.inj same).2⟩
    | cons b rest => exact absurd (List.cons.inj same).1 (by simp_all)
  | cons b rest ih =>
    cases text' with
    | nil => exact absurd (List.cons.inj same).1 (by simp_all [eq_comm])
    | cons b' rest' =>
      obtain ⟨rfl, others⟩ := List.cons.inj same
      obtain ⟨rfl, behind⟩ := ih (List.not_mem_of_not_mem_cons unbroken)
        (List.not_mem_of_not_mem_cons unbroken') others
      exact ⟨rfl, behind⟩

theorem EndsBefore.unique {line line' : Line} {left left' : List UInt8}
    (ends : EndsBefore line left) (ends' : EndsBefore line' left')
    (same : line ++ left = line' ++ left') : line = line' ∧ left = left' := by
  rcases ends with ⟨text, unbroken, rfl⟩ | ⟨-, unbroken, rfl⟩
  · rcases ends' with ⟨text', unbroken', rfl⟩ | ⟨-, unbroken', rfl⟩
    · simp only [List.append_assoc, List.singleton_append] at same
      obtain ⟨rfl, rfl⟩ := break_unique unbroken unbroken' same
      exact ⟨rfl, rfl⟩
    · rw [List.append_nil] at same
      exact absurd (same ▸ by simp) unbroken'
  · rcases ends' with ⟨text', unbroken', rfl⟩ | ⟨-, unbroken', rfl⟩
    · rw [List.append_nil] at same
      exact absurd (same ▸ by simp) unbroken
    · simp only [List.append_nil] at same
      exact ⟨same, rfl⟩

/-- The lines are those of the bytes that they make up. -/
def AreLines : List Line → Prop
  | [] => True
  | line :: rest => EndsBefore line rest.flatten ∧ AreLines rest

theorem AreLines.flatten_eq_nil {lines : List Line} (are : AreLines lines)
    (empty : lines.flatten = []) : lines = [] := by
  cases lines with
  | nil => rfl
  | cons line rest =>
    have none : line = [] := (List.append_eq_nil_iff.mp empty).1
    rcases are.1 with ⟨text, -, rfl⟩ | ⟨some_, -⟩
    · simp at none
    · exact absurd none some_

theorem notMem_dropLast_of_isChain {line : Line} (unbroken : line.IsChain fun b _ => b != lineBreak) :
    lineBreak ∉ line.dropLast := by
  induction unbroken with
  | nil => exact List.not_mem_nil
  | singleton b => exact List.not_mem_nil
  | cons_cons differs _ ih =>
    simp only [List.dropLast_cons_cons, List.mem_cons, not_or]
    exact ⟨fun same => by simp [← same] at differs, ih⟩

theorem areLines_linesOf (bytes : List UInt8) : AreLines (linesOf bytes) := by
  have filled := List.nil_notMem_splitBy (fun b _ => b != lineBreak) bytes
  have within : ∀ line ∈ linesOf bytes, lineBreak ∉ line.dropLast := fun line member =>
    notMem_dropLast_of_isChain (List.isChain_of_mem_splitBy member)
  have between := List.isChain_getLast_head_splitBy (fun b _ => b != lineBreak) bytes
  change [] ∉ linesOf bytes at filled
  change (linesOf bytes).IsChain _ at between
  generalize linesOf bytes = lines at filled within between
  induction lines with
  | nil => trivial
  | cons line rest ih =>
    simp only [List.mem_cons, not_or] at filled
    obtain ⟨first, others⟩ := List.forall_mem_cons.mp within
    refine ⟨?_, ih filled.2 others between.of_cons⟩
    have some_ : line ≠ [] := Ne.symm filled.1
    have split := (List.dropLast_append_getLast some_).symm
    by_cases broken : line.getLast some_ = lineBreak
    · exact .inl ⟨line.dropLast, first, broken ▸ split⟩
    · -- Only the last line may lack its break.
      cases rest with
      | nil =>
        refine .inr ⟨some_, ?_, rfl⟩
        rw [split, List.mem_append, List.mem_singleton, not_or]
        exact ⟨first, Ne.symm broken⟩
      | cons next _ =>
        obtain ⟨_, _, breaks⟩ := (List.isChain_cons_cons.mp between).1
        exact absurd (by simpa using breaks) broken

theorem flatten_linesOf (bytes : List UInt8) : (linesOf bytes).flatten = bytes :=
  List.flatten_splitBy _ bytes

/-- So many lines are passed over that answer earlier requests, and these bytes are left. -/
inductive Passes (id : Nat) : Nat → List UInt8 → List UInt8 → Prop
  | none {bytes : List UInt8} : Passes id 0 bytes bytes
  | late {n : Nat} {line : Line} {left last : List UInt8} (whole : Whole line)
      (late : isLate id line = true) (others : Passes id n left last) :
      Passes id (n + 1) (line ++ left) last

/-- A caller leaves these bytes. What it has read of the next line is lost. -/
def Leaves (id : Nat) (d : Departure) (bytes left : List UInt8) : Prop :=
  ∃ n begun, Passes id n bytes (begun ++ left) ∧ n ≤ d.lines ∧ begun.length ≤ d.bytes ∧
    lineBreak ∉ begun

/-- What a request takes from what is not yet read, what comes of it, and what it leaves. Whatever
it passes over answers an earlier request. -/
inductive Takes (id : Nat) (e : Exchange) :
    List UInt8 → Option (Except PageFault Json) → List UInt8 → Prop
  | own {n : Nat} {line : Line} {bytes left : List UInt8} {reply : Reply}
      {result : Except PageFault Json} (waits : e.leaves = none)
      (passes : Passes id n bytes (line ++ left)) (ends : EndsBefore line left)
      (read : Reply.ofLine line = .ok reply) (same : reply.id = id) (tells : reply.Tells result) :
      Takes id e bytes (some result) left
  | ahead {n : Nat} {line : Line} {bytes left : List UInt8} {reply : Reply}
      (waits : e.leaves = none) (passes : Passes id n bytes (line ++ left))
      (ends : EndsBefore line left) (read : Reply.ofLine line = .ok reply) (larger : id < reply.id) :
      Takes id e bytes (some (.error (.protocol
        s!"expected reply {id} for '{e.operation}', got {reply.id}"))) left
  | invalid {n : Nat} {line : Line} {bytes left : List UInt8} {fault : Json.ReadFault}
      (waits : e.leaves = none) (passes : Passes id n bytes (line ++ left))
      (ends : EndsBefore line left) (read : Reply.ofLine line = .error (.notReply fault)) :
      Takes id e bytes (some (.error (.protocol
        (s!"invalid reply to '{e.operation}': " ++ fault.message)))) left
  | garbled {n : Nat} {line : Line} {bytes left : List UInt8} (waits : e.leaves = none)
      (passes : Passes id n bytes (line ++ left)) (ends : EndsBefore line left)
      (read : Reply.ofLine line = .error .notText) :
      Takes id e bytes (some (.error (.io "stream did not contain valid UTF-8"))) left
  /-- The last line may be late without being finished. -/
  | ended {n : Nat} {bytes last : List UInt8} (waits : e.leaves = none)
      (passes : Passes id n bytes last)
      (atEnd : last = [] ∨ lineBreak ∉ last ∧ isLate id last = true) :
      Takes id e bytes (some (.error .closed)) []
  | abandoned {d : Departure} {bytes left : List UInt8} (given : e.leaves = some d)
      (leaves : Leaves id d bytes left) : Takes id e bytes none left

theorem Takes.passing {id : Nat} {e : Exchange} {line : Line} {bytes left : List UInt8}
    {outcome : Option (Except PageFault Json)} (waits : e.leaves = none) (whole : Whole line)
    (late : isLate id line = true) (takes : Takes id e bytes outcome left) :
    Takes id e (line ++ bytes) outcome left := by
  cases takes with
  | own _ passes ends read same tells => exact .own waits (passes.late whole late) ends read same tells
  | ahead _ passes ends read larger => exact .ahead waits (passes.late whole late) ends read larger
  | invalid _ passes ends read => exact .invalid waits (passes.late whole late) ends read
  | garbled _ passes ends read => exact .garbled waits (passes.late whole late) ends read
  | ended _ passes atEnd => exact .ended waits (passes.late whole late) atEnd
  | abandoned given => exact absurd (waits.symm.trans given) nofun

theorem receive_takes {more : Bool} {id : Nat} {e : Exchange} (waits : e.leaves = none)
    {lines : List Line} (are : AreLines lines) {arrived : List UInt8}
    (last : more = false → arrived = [])
    (heard : isSilent more (receive more id e.operation lines).1 = false) :
    Takes id e (lines.flatten ++ arrived) (some (receive more id e.operation lines).1)
      ((receive more id e.operation lines).2.flatten ++ arrived) := by
  induction lines with
  | nil =>
    obtain rfl := last heard
    exact .ended waits .none (.inl rfl)
  | cons line rest ih =>
    have waited : (more && !isFinished line) = false := by
      by_contra unfinished
      simp only [Bool.not_eq_false] at unfinished
      simp only [receive, unfinished, if_true, isSilent] at heard
      simp [heard] at unfinished
    have ends : EndsBefore line (rest.flatten ++ arrived) := by
      rcases are.1 with whole | ⟨some_, unbroken, none⟩
      · exact .inl whole
      · cases more with
        | false => exact .inr ⟨some_, unbroken, by rw [none, last rfl]; rfl⟩
        | true => exact .inl (are.1.whole (by simpa using waited))
    rw [List.flatten_cons, List.append_assoc]
    simp only [receive, waited, Bool.false_eq_true, if_false] at heard ⊢
    cases read : Reply.ofLine line with
    | error fault =>
      cases fault with
      | notText => exact .garbled waits .none ends read
      | notReply fault => exact .invalid waits .none ends read
    | ok reply =>
      rcases Nat.lt_trichotomy reply.id id with below | same | larger
      · have late := isLate_iff.mpr ⟨reply, read, below⟩
        simp only [read, below, if_true] at heard ⊢
        rcases ends with whole | ⟨-, unbroken, none⟩
        · exact (ih are.2 heard).passing waits whole late
        · -- The line is late and the last one, so the stream is over.
          obtain ⟨empty, rfl⟩ := List.append_eq_nil_iff.mp none
          obtain rfl := are.2.flatten_eq_nil empty
          exact .ended waits .none (.inr ⟨by simpa using unbroken, by simpa using late⟩)
      · simp only [same, Nat.lt_irrefl, if_false, if_true]
        exact .own waits .none ends read same (Reply.tells_iff.mpr rfl)
      · simp only [if_neg (Nat.lt_asymm larger), if_neg (Nat.ne_of_gt larger)]
        exact .ahead waits .none ends read larger

/-- Requests that are made in turn, numbered from the first on. Each finds what the one before it
has left. -/
inductive Conversation : Nat → List Exchange → List UInt8 →
    List (Option (Except PageFault Json)) → Prop
  | nil {id : Nat} {bytes : List UInt8} : Conversation id [] bytes []
  | cons {id : Nat} {e : Exchange} {rest : List Exchange} {bytes left : List UInt8}
      {outcome : Option (Except PageFault Json)} {outcomes : List (Option (Except PageFault Json))}
      (takes : Takes id e bytes outcome left) (others : Conversation (id + 1) rest left outcomes) :
      Conversation id (e :: rest) bytes (outcome :: outcomes)

/-- The bytes answer requests, numbered from the given one on, by one line each and in order. Any
lines for earlier requests may come before an answer. -/
inductive Answers : Nat → List Reply → List UInt8 → Prop
  | done {id : Nat} {bytes : List UInt8} : Answers id [] bytes
  | next {id n : Nat} {line : Line} {bytes rest : List UInt8} {reply : Reply} {replies : List Reply}
      (before : Passes id n bytes (line ++ rest)) (whole : Whole line)
      (read : Reply.ofLine line = .ok reply) (own : reply.id = id)
      (others : Answers (id + 1) replies rest) : Answers id (reply :: replies) bytes

theorem Passes.mono {id later n : Nat} {bytes left : List UInt8} (le : id ≤ later)
    (passes : Passes id n bytes left) : Passes later n bytes left := by
  induction passes with
  | none => exact .none
  | late whole late _ ih => exact .late whole (isLate_mono le late) ih

theorem Passes.trans {id n m : Nat} {bytes left last : List UInt8} (first : Passes id n bytes left)
    (others : Passes id m left last) : ∃ k, Passes id k bytes last := by
  induction first with
  | none => exact ⟨m, others⟩
  | late whole late _ ih =>
    obtain ⟨k, rest⟩ := ih others
    exact ⟨k + 1, .late whole late rest⟩

theorem Answers.behind {id n : Nat} {replies : List Reply} {bytes left : List UInt8}
    (passes : Passes id n bytes left) (answers : Answers id replies left) :
    Answers id replies bytes := by
  cases answers with
  | done => exact .done
  | next before whole read own others =>
    obtain ⟨k, passes⟩ := passes.trans before
    exact .next passes whole read own others

theorem Passes.reaches {id n m : Nat} {bytes left rest : List UInt8} {line : Line}
    (passes : Passes id n bytes left) (whole : Whole line) (due : isLate id line = false)
    (before : Passes id m bytes (line ++ rest)) : ∃ k, Passes id k left (line ++ rest) := by
  induction passes generalizing m with
  | none => exact ⟨m, before⟩
  | @late n first others last wholeFirst late _ ih =>
    generalize all : first ++ others = bytes at before
    cases before with
    | none =>
      obtain ⟨rfl, -⟩ := EndsBefore.unique (.inl wholeFirst) (.inl whole) all
      exact absurd late (by simp [due])
    | late wholeFirst' _ before =>
      obtain ⟨rfl, rfl⟩ := EndsBefore.unique (.inl wholeFirst) (.inl wholeFirst') all
      exact ih before

theorem Passes.due_eq {id n m : Nat} {bytes left rest : List UInt8} {line line' : Line}
    (passes : Passes id n bytes (line ++ left)) (ends : EndsBefore line left)
    (due : isLate id line = false) (before : Passes id m bytes (line' ++ rest))
    (whole : Whole line') (due' : isLate id line' = false) : line = line' ∧ left = rest := by
  obtain ⟨k, reached⟩ := passes.reaches whole due' before
  generalize all : line ++ left = unread at reached
  cases reached with
  | none => exact ends.unique (.inl whole) all
  | late wholeFirst late _ =>
    obtain ⟨rfl, -⟩ := ends.unique (.inl wholeFirst) all
    exact absurd late (by simp [due])

theorem Passes.lineBreak_mem {id n : Nat} {bytes rest : List UInt8} {line : Line}
    (passes : Passes id n bytes (line ++ rest)) (whole : Whole line) : lineBreak ∈ bytes := by
  generalize all : line ++ rest = last at passes
  cases passes with
  | none =>
    obtain ⟨text, -, rfl⟩ := whole
    exact all ▸ by simp
  | late wholeFirst _ _ =>
    obtain ⟨text, -, rfl⟩ := wholeFirst
    simp

/-- The caller waits, or leaves between two lines. -/
def Exchange.LeavesWhole (e : Exchange) : Prop := ∀ d, e.leaves = some d → d.bytes = 0

def Exchange.Gets (e : Exchange) (reply : Reply) (outcome : Option (Except PageFault Json)) : Prop :=
  match e.leaves with
  | some _ => outcome = none
  | none => ∃ result, outcome = some result ∧ reply.Tells result

section

variable {id : Nat} {e : Exchange} {bytes left : List UInt8}
  {outcome : Option (Except PageFault Json)} {reply : Reply} {replies : List Reply}

/-- A request takes its own answer, or leaves it to be passed over by the next one. Either way the
answers to the requests after it stay as they are, unless it leaves in the middle of a line. -/
theorem Takes.answered (takes : Takes id e bytes outcome left)
    (answers : Answers id (reply :: replies) bytes) :
    e.Gets reply outcome ∧ (e.LeavesWhole → Answers (id + 1) replies left) := by
  cases answers with
  | @next _ _ line _ rest _ _ before whole read own others =>
    -- The answer is not late, so nobody passes over it, and all before it is late, so nobody stops.
    have due := not_isLate read (Nat.le_of_eq own.symm)
    cases takes with
    | own waits passes ends read' same tells =>
      obtain ⟨rfl, rfl⟩ :=
        passes.due_eq ends (not_isLate read' (Nat.le_of_eq same.symm)) before whole due
      cases read.symm.trans read'
      exact ⟨by simpa [Exchange.Gets, waits] using tells, fun _ => others⟩
    | ahead waits passes ends read' larger =>
      obtain ⟨rfl, -⟩ := passes.due_eq ends (not_isLate read' (Nat.le_of_lt larger)) before whole due
      cases read.symm.trans read'
      exact absurd own (Nat.ne_of_gt larger)
    | invalid waits passes ends read' =>
      obtain ⟨rfl, -⟩ := passes.due_eq ends (by simp [isLate, read']) before whole due
      cases read.symm.trans read'
    | garbled waits passes ends read' =>
      obtain ⟨rfl, -⟩ := passes.due_eq ends (by simp [isLate, read']) before whole due
      cases read.symm.trans read'
    | ended waits passes atEnd =>
      obtain ⟨k, reached⟩ := passes.reaches whole due before
      have broken := reached.lineBreak_mem whole
      rcases atEnd with rfl | ⟨unbroken, -⟩
      · cases broken
      · exact absurd broken unbroken
    | abandoned given leaves =>
      refine ⟨by simp [Exchange.Gets, given], fun between => ?_⟩
      obtain ⟨n, begun, passes, -, part, -⟩ := leaves
      rw [between _ given, Nat.le_zero, List.length_eq_zero_iff] at part
      subst part
      -- Seen from the next request, the answer that was not waited for is one more late line.
      obtain ⟨k, reached⟩ := passes.reaches whole due before
      have next : Passes (id + 1) 1 (line ++ rest) rest := .late whole (isLate_succ read own) .none
      exact (others.behind next).behind (reached.mono (Nat.le_succ id))

end

theorem Conversation.answered {id : Nat} {calls : List Exchange} {bytes : List UInt8}
    {outcomes : List (Option (Except PageFault Json))} {replies : List Reply}
    (conversation : Conversation id calls bytes outcomes) (answers : Answers id replies bytes)
    {k : Nat} {e : Exchange} {reply : Reply} (call : calls[k]? = some e)
    (answer : replies[k]? = some reply) (before : ∀ other ∈ calls.take k, other.LeavesWhole) :
    ∃ outcome, outcomes[k]? = some outcome ∧ e.Gets reply outcome := by
  induction conversation generalizing replies k with
  | nil => cases call
  | cons takes _ ih =>
    cases replies with
    | nil => cases answer
    | cons first others =>
      obtain ⟨gets, later⟩ := takes.answered answers
      cases k with
      | zero =>
        cases call
        cases answer
        exact ⟨_, rfl, gets⟩
      | succ k =>
        simp only [List.take_succ_cons, List.forall_mem_cons] at before
        exact ih (later before.1) call answer before.2

end Walkthrough.Bridge
