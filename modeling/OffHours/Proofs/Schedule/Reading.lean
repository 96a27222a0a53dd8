import OffHours.Schedule.Tag

/-!
# Reading a tag segment by segment

The rules of a tag are those that its segments finish one after another, followed by the rules
of what is held back at its end. `Pending.after` is what is held back after some segments and
`Pending.finished` the rules that they finish; both go through a list of segments from the left,
so a tag can be cut at any segment. The errors of a tag are the faults met on the way.
-/

namespace OffHours

/-- Whether a token has a place in a date. -/
def Token.isOfDate : Token → Bool
  | number _ | month _ | mark _ => true
  | weekday _ | hour _ | meridiem _ | arrow | word _ => false

/-- A month has a place in a date. -/
@[simp] theorem Token.isOfDate_month (found : Nat) : (month found).isOfDate = true := rfl

/-- A mark has a place in a date. -/
@[simp] theorem Token.isOfDate_mark (between : DateMark) : (mark between).isOfDate = true := rfl

/-- All tokens of a date have a place in it. -/
theorem DateLiteral.ofTokens?_of_other {tokens : List Token}
    (other : tokens.all Token.isOfDate = false) : ofTokens? tokens = none := by
  unfold ofTokens?
  split <;> first | rfl | cases other

/-- A year has a place in a date. -/
theorem Segment.yearOfTokens?_of_other {tokens : List Token}
    (other : tokens.all Token.isOfDate = false) : yearOfTokens? tokens = none := by
  unfold yearOfTokens?
  split
  · cases other
  · rfl

namespace Schedule

/-- What a segment says, or why it says nothing. -/
abbrev Finding := Except SegmentFault Segment

/-- What the text of a segment says. -/
def finding (segment : String) : Finding := (Segment.ofText segment).map Prod.fst

/-- What the segments of a tag say. -/
def findings (tag : String) : List Finding := (segments tag).map finding

/-- A result that was changed was there before. -/
theorem exists_of_map_eq_ok {ε α β : Type} {change : α → β} {result : Except ε α} {value : β}
    (changed : result.map change = .ok value) :
    ∃ before, result = .ok before ∧ change before = value := by
  cases result with
  | error fault => cases changed
  | ok before => exact ⟨before, rfl, Except.ok.inj changed⟩

/-- A segment that says something was cut into tokens that say it. -/
theorem exists_tokens_of_finding {text : String} {said : Segment}
    (found : finding text = .ok said) :
    ∃ tokens ignored, Token.ofText text = .ok tokens ∧
      Segment.ofTokens tokens = .ok (said, ignored) := by
  obtain ⟨⟨whole, ignored⟩, read, rfl⟩ := exists_of_map_eq_ok found
  unfold Segment.ofText at read
  cases scanned : Token.ofText text with
  | error fault => simp [scanned, bind, Except.bind] at read
  | ok tokens => exact ⟨tokens, ignored, rfl, by simpa [scanned, bind, Except.bind] using read⟩

/-- What tokens say is their date, their year or their items together. -/
theorem cases_of_ofTokens {tokens ignored : List Token} {said : Segment}
    (read : Segment.ofTokens tokens = .ok (said, ignored)) :
    (∃ literal rule, DateLiteral.ofTokens? tokens = some literal ∧ literal.rule = .ok rule ∧
        said = .date rule) ∨
      (∃ written, Segment.yearOfTokens? tokens = some written ∧ said = .year written) ∨
      ∃ items, SegmentItems.ofTokens tokens = .ok items ∧ Segment.ofItems items = .ok said := by
  unfold Segment.ofTokens at read
  split at read
  · contradiction
  · split at read
    · rename_i literal dated
      obtain ⟨rule, gives, same⟩ := exists_of_map_eq_ok read
      exact Or.inl ⟨literal, rule, dated, gives, (Prod.mk.inj same).1.symm⟩
    · split at read
      · rename_i written numbered
        cases read
        exact Or.inr (Or.inl ⟨written, numbered, rfl⟩)
      · cases listed : SegmentItems.ofTokens tokens with
        | error fault => simp [listed, bind, Except.bind] at read
        | ok items =>
          cases together : Segment.ofItems items with
          | error fault => simp [listed, together, bind, Except.bind] at read
          | ok segment =>
            simp only [listed, together, bind, Except.bind, pure, Except.pure, Except.ok.injEq,
              Prod.mk.injEq] at read
            exact Or.inr (Or.inr ⟨items, rfl, read.1 ▸ together⟩)

namespace Pending

/-- What is held back after some segments. -/
def after (pending : Pending) (said : List Finding) : Pending :=
  said.foldl (fun held found => (held.step found).pending) pending

/-- The rules that some segments finish. -/
def finished (pending : Pending) : List Finding → List Rule
  | [] => []
  | found :: rest => (pending.step found).rules ++ finished (pending.step found).pending rest

/-- The rules of some segments when nothing comes after them. -/
def rules (pending : Pending) (said : List Finding) : List Rule :=
  pending.finished said ++ (pending.after said).flush

/-- Before any segment nothing has changed. -/
@[simp] theorem after_nil (pending : Pending) : pending.after [] = pending := rfl

/-- The first segment changes what is held back for the others. -/
@[simp] theorem after_cons (pending : Pending) (found : Finding) (rest : List Finding) :
    pending.after (found :: rest) = (pending.step found).pending.after rest := rfl

/-- Segments in two parts change what is held back one part after the other. -/
theorem after_append (pending : Pending) (front back : List Finding) :
    pending.after (front ++ back) = (pending.after front).after back := by
  simp [after, List.foldl_append]

/-- No segments finish no rule. -/
@[simp] theorem finished_nil (pending : Pending) : pending.finished [] = [] := rfl

/-- The first segment finishes its rules before the others. -/
@[simp] theorem finished_cons (pending : Pending) (found : Finding) (rest : List Finding) :
    pending.finished (found :: rest) =
      (pending.step found).rules ++ (pending.step found).pending.finished rest := rfl

/-- Segments in two parts finish their rules one part after the other. -/
theorem finished_append (pending : Pending) (front back : List Finding) :
    pending.finished (front ++ back) =
      pending.finished front ++ (pending.after front).finished back := by
  induction front generalizing pending with
  | nil => rfl
  | cons found rest hypothesis => simp [hypothesis]

/-- Without segments only what is held back yields rules. -/
@[simp] theorem rules_nil (pending : Pending) : pending.rules [] = pending.flush := rfl

/-- The rules of the first segment come before those of the others. -/
@[simp] theorem rules_cons (pending : Pending) (found : Finding) (rest : List Finding) :
    pending.rules (found :: rest) =
      (pending.step found).rules ++ (pending.step found).pending.rules rest := by
  simp [rules]

/-- The rules of segments in two parts: those finished in the first, then those of the second. -/
theorem rules_append (pending : Pending) (front back : List Finding) :
    pending.rules (front ++ back) =
      pending.finished front ++ (pending.after front).rules back := by
  simp [rules, finished_append, after_append]

end Pending

/-- The rules of the segments from a position on. -/
theorem readFrom_rules (index : Nat) (pending : Pending) (texts : List String) :
    (readFrom index pending texts).rules = pending.rules (texts.map finding) := by
  induction texts generalizing index pending with
  | nil => rfl
  | cons text rest hypothesis =>
    simp only [readFrom, Reading.append, hypothesis, List.map_cons, Pending.rules_cons, finding]

/-- The rules of a tag are those of its segments, read with nothing held back. -/
theorem read_rules (tag : String) : (read tag).rules = Pending.none.rules (findings tag) :=
  readFrom_rules 0 Pending.none (segments tag)

/-- The positions of the segments that were left out, and why. -/
def Reading.faults (reading : Reading) : List (Nat × SegmentFault) :=
  reading.errors.map fun error => (error.index, error.fault)

/-- The first segment is left out for the fault that it meets. -/
theorem readFrom_faults_cons (index : Nat) (pending : Pending) (text : String)
    (rest : List String) :
    (readFrom index pending (text :: rest)).faults =
      ((pending.step (finding text)).fault.map (index, ·)).toList ++
        (readFrom (index + 1) (pending.step (finding text)).pending rest).faults := by
  cases met : (pending.step (finding text)).fault <;>
    simp_all [readFrom, Reading.append, Reading.faults, finding]

/-- Segments that say the same are left out at the same positions for the same reasons. -/
theorem readFrom_faults_eq {texts others : List String}
    (same : texts.map finding = others.map finding) (index : Nat) (pending : Pending) :
    (readFrom index pending texts).faults = (readFrom index pending others).faults := by
  induction texts generalizing others index pending with
  | nil =>
    obtain rfl : others = [] := List.map_eq_nil_iff.mp same.symm
    rfl
  | cons text rest hypothesis =>
    obtain ⟨other, further, rfl, first, later⟩ := List.map_eq_cons_iff.mp same.symm
    rw [readFrom_faults_cons, readFrom_faults_cons, first, hypothesis later.symm]

/-- Tags whose segments say the same have the same rules, and the same segments of both are left
out for the same reasons. -/
theorem read_eq_of_findings {tag other : String} (same : findings tag = findings other) :
    (read tag).rules = (read other).rules ∧ (read tag).faults = (read other).faults :=
  ⟨by rw [read_rules, read_rules, same], readFrom_faults_eq same 0 Pending.none⟩

/-- The errors of the segments from a position on are the faults that are met on the way. -/
theorem mem_readFrom_errors {index : Nat} {pending : Pending} {texts : List String}
    {error : SegmentError} :
    error ∈ (readFrom index pending texts).errors ↔
      ∃ front text back, texts = front ++ text :: back ∧
        ((pending.after (front.map finding)).step (finding text)).fault = some error.fault ∧
        error.index = index + front.length ∧ error.segment = text := by
  induction texts generalizing index pending with
  | nil => simp [readFrom]
  | cons text rest hypothesis =>
    have split : error ∈ (readFrom index pending (text :: rest)).errors ↔
        (∃ fault, (pending.step (finding text)).fault = some fault ∧
          ⟨index, text, fault⟩ = error) ∨
        error ∈ (readFrom (index + 1) (pending.step (finding text)).pending rest).errors := by
      simp only [readFrom, Reading.append, List.mem_append, Option.mem_toList,
        Option.map_eq_some_iff, finding]
    rw [split, hypothesis]
    constructor
    · rintro (⟨fault, met, rfl⟩ | ⟨front, later, back, rfl, met, place, same⟩)
      · exact ⟨[], text, rest, rfl, met, rfl, rfl⟩
      · refine ⟨text :: front, later, back, rfl, met, ?_, same⟩
        rw [place, List.length_cons]
        omega
    · rintro ⟨front, later, back, shape, met, place, same⟩
      cases front with
      | nil =>
        obtain ⟨rfl, rfl⟩ := List.cons.inj shape
        refine Or.inl ⟨error.fault, met, ?_⟩
        obtain ⟨position, segment, fault⟩ := error
        simp_all
      | cons first front =>
        obtain ⟨rfl, rfl⟩ := List.cons.inj shape
        refine Or.inr ⟨front, later, back, rfl, met, ?_, same⟩
        rw [place, List.length_cons]
        omega

/-- An error of a tag is the fault that the segment at its index meets. -/
theorem fault_of_mem_errors {tag : String} {error : SegmentError}
    (reported : error ∈ (read tag).errors) :
    ∃ found, (findings tag)[error.index]? = some found ∧
      ((Pending.none.after ((findings tag).take error.index)).step found).fault =
        some error.fault := by
  obtain ⟨front, text, back, shape, met, place, -⟩ := mem_readFrom_errors.mp reported
  have parts : findings tag = front.map finding ++ finding text :: back.map finding := by
    simp [findings, shape]
  have length : error.index = (front.map finding).length := by simp [place]
  refine ⟨finding text, ?_, ?_⟩
  · simp [parts, length]
  · rw [parts, length, List.take_left]
    exact met

end Schedule

end OffHours
