import OffHours.Schedule.Lexer

/-!
# Characters that scan to given tokens

A text that is put together from words and marks scans to their tokens one after another, as
long as no word runs into the next. `Token.Reads` says that some characters scan to some tokens
whatever stands behind them, unless that goes on with their last word; so what scans in parts
scans as a whole.
-/

namespace OffHours

/-! ## Words -/

/-- The code points of the ASCII letters. -/
theorem toNat_of_isAlpha {c : Char} (letter : c.isAlpha = true) :
    65 ≤ c.toNat ∧ c.toNat ≤ 90 ∨ 97 ≤ c.toNat ∧ c.toNat ≤ 122 := by
  unfold Char.isAlpha Char.isUpper Char.isLower at letter
  simp only [Bool.or_eq_true, Bool.and_eq_true, decide_eq_true_eq, ge_iff_le,
    UInt32.le_iff_toNat_le] at letter
  exact letter

/-- The code points of the ASCII digits. -/
theorem toNat_of_isDigit {c : Char} (digit : c.isDigit = true) :
    48 ≤ c.toNat ∧ c.toNat ≤ 57 := by
  unfold Char.isDigit at digit
  simp only [Bool.and_eq_true, decide_eq_true_eq, ge_iff_le, UInt32.le_iff_toNat_le] at digit
  exact digit

/-- A character whose small form is an ASCII letter is one. -/
theorem isAlpha_of_toLower {c : Char} (letter : c.toLower.isAlpha = true) : c.isAlpha = true := by
  unfold Char.toLower at letter
  split at letter
  · rename_i upper
    have capital : c.isUpper = true := by
      unfold Char.isUpper
      simpa using upper
    unfold Char.isAlpha
    rw [capital, Bool.true_or]
  · exact letter

/-- An ASCII letter is no digit. -/
theorem not_isDigit_of_isAlpha {c : Char} (letter : c.isAlpha = true) : c.isDigit = false := by
  have code := toNat_of_isAlpha letter
  rw [Bool.eq_false_iff]
  intro digit
  have low := toNat_of_isDigit digit
  omega

/-- The code points of the ASCII letters and digits. -/
theorem toNat_of_isAlphanum {c : Char} (plain : c.isAlphanum = true) :
    65 ≤ c.toNat ∧ c.toNat ≤ 90 ∨ 97 ≤ c.toNat ∧ c.toNat ≤ 122 ∨ 48 ≤ c.toNat ∧ c.toNat ≤ 57 := by
  rw [Char.isAlphanum, Bool.or_eq_true] at plain
  rcases plain with letter | digit
  · have code := toNat_of_isAlpha letter
    omega
  · exact Or.inr (Or.inr (toNat_of_isDigit digit))

/-- ASCII letters and digits are letters and digits. -/
theorem isAlphanumeric_of_isAlphanum {c : Char} (plain : c.isAlphanum = true) :
    Text.isAlphanumeric c = true := by
  have code := toNat_of_isAlphanum plain
  have small : c.toNat < 128 := by omega
  rw [Text.isAlphanumeric, if_pos small, plain]

/-- ASCII letters and digits are not blank. -/
theorem not_isBlank_of_isAlphanum {c : Char} (plain : c.isAlphanum = true) :
    Text.isBlank c = false := by
  have code := toNat_of_isAlphanum plain
  rw [Bool.eq_false_iff, Text.isBlank, ne_eq, Text.inIntervals_iff]
  rintro ⟨interval, listed, low, high⟩
  simp only [Text.blankIntervals, List.mem_cons, List.not_mem_nil, or_false] at listed
  rcases listed with rfl | rfl | rfl | rfl | rfl | rfl | rfl | rfl | rfl | rfl <;>
    simp only at low high <;> omega

/-- A word of ASCII letters and digits. -/
structure IsWord (word : List Char) : Prop where
  /-- There is a character. -/
  nonempty : word ≠ []
  /-- Every character is an ASCII letter or digit. -/
  plain : ∀ c ∈ word, c.isAlphanum = true

/-- A list of ASCII letters and digits, decided by its characters, is a word. -/
theorem isWord_of_all {word : List Char}
    (plain : (!word.isEmpty && word.all Char.isAlphanum) = true) : IsWord word := by
  rw [Bool.and_eq_true, Bool.not_eq_true', List.isEmpty_eq_false_iff] at plain
  exact ⟨plain.1, List.all_eq_true.mp plain.2⟩

/-- A word that goes on with a word is a word. -/
theorem IsWord.append {word suffix : List Char} (first : IsWord word) (second : IsWord suffix) :
    IsWord (word ++ suffix) where
  nonempty := by simp [first.nonempty]
  plain := by
    intro c present
    rcases List.mem_append.mp present with before | after
    · exact first.plain c before
    · exact second.plain c after

/-- A word holds no comma. -/
theorem IsWord.comma_not_mem {word : List Char} (isWord : IsWord word) : ',' ∉ word := by
  intro comma
  have plain := isWord.plain ',' comma
  revert plain
  decide

namespace Token

/-- No word goes on with these characters. -/
def Stops (rest : List Char) : Prop := ∀ c ∈ rest.head?, Text.isAlphanumeric c = false

/-- Nothing behind a word stops it. -/
theorem stops_nil : Stops [] := by simp [Stops]

/-- A mark or a blank in front stops a word. -/
theorem stops_cons {c : Char} {rest : List Char} (other : Text.isAlphanumeric c = false) :
    Stops (c :: rest) := by
  simp [Stops, other]

/-- What stops a word does so with more behind it that does. -/
theorem Stops.append {front back : List Char} (first : Stops front) (second : Stops back) :
    Stops (front ++ back) := by
  cases front with
  | nil => exact second
  | cons c rest => exact first

/-- A word is cut where it stops. -/
theorem span_word {word rest : List Char} (isWord : ∀ c ∈ word, Text.isAlphanumeric c = true)
    (stops : Stops rest) :
    (word ++ rest).takeWhile Text.isAlphanumeric = word ∧
      (word ++ rest).dropWhile Text.isAlphanumeric = rest := by
  rw [List.takeWhile_append_of_pos isWord, List.dropWhile_append_of_pos isWord]
  cases rest with
  | nil => simp
  | cons c rest =>
    have other : Text.isAlphanumeric c = false := stops c rfl
    simp [other]

/-- Characters that scan to some tokens before anything that does not go on with their last
word. -/
def Reads (chars : List Char) (tokens : List Token) : Prop :=
  ∀ rest, Stops rest → scan (chars ++ rest) = (scan rest).map (tokens ++ ·)

/-- What scans in two parts scans as a whole. -/
theorem Reads.append {front back : List Char} {first second : List Token}
    (reads : Reads front first) (stops : Stops back) (further : Reads back second) :
    Reads (front ++ back) (first ++ second) := by
  intro rest behind
  rw [List.append_assoc, reads _ (stops.append behind), further rest behind]
  cases scan rest with
  | error fault => rfl
  | ok tokens => simp [Except.map]

/-- A blank in front is dropped. -/
theorem Reads.blank {chars : List Char} {tokens : List Token} (reads : Reads chars tokens) :
    Reads (' ' :: chars) tokens := by
  intro rest behind
  have blank : Text.isBlank ' ' = true := by decide
  rw [List.cons_append, scan, if_pos blank, reads rest behind]
  all_goals simp

/-- An arrow is a token. -/
theorem reads_arrow : Reads ['-', '>'] [arrow] := by
  intro rest _
  rw [List.cons_append, List.cons_append, List.nil_append, scan]
  rfl

/-- A slash in front of a token that is read is a token. -/
theorem Reads.slash {chars : List Char} {tokens : List Token} (reads : Reads chars tokens) :
    Reads ('/' :: chars) (mark .slash :: tokens) := by
  intro rest behind
  rw [List.cons_append, scan, reads rest behind]
  cases scan rest with
  | error fault => rfl
  | ok further => rfl

/-- A dash in front of a word is a token. -/
theorem Reads.dash {chars : List Char} {tokens : List Token} {c : Char}
    (reads : Reads (c :: chars) tokens) (plain : c ≠ '>') :
    Reads ('-' :: c :: chars) (mark .dash :: tokens) := by
  intro rest behind
  have scanned := reads rest behind
  rw [List.cons_append] at scanned ⊢
  rw [List.cons_append, scan, scanned]
  · cases scan rest with
    | error fault => rfl
    | ok further => rfl
  · intro later same
    exact plain (List.cons.inj same).1

/-- A word is the token that it is read as. -/
theorem reads_word {word : List Char} {token : Token} (isWord : IsWord word)
    (read : ofWord word = .ok token) : Reads word [token] := by
  intro rest behind
  obtain ⟨nonempty, plain⟩ := isWord
  cases word with
  | nil => exact absurd rfl nonempty
  | cons c letters =>
    have first : c.isAlphanum = true := plain c List.mem_cons_self
    have code := toNat_of_isAlphanum first
    have letter : Text.isAlphanumeric c = true := isAlphanumeric_of_isAlphanum first
    have ink : Text.isBlank c = false := not_isBlank_of_isAlphanum first
    have others : ∀ c ∈ letters, Text.isAlphanumeric c = true := fun c present =>
      isAlphanumeric_of_isAlphanum (plain c (List.mem_cons_of_mem _ present))
    obtain ⟨taken, dropped⟩ := span_word others behind
    -- The first character is none of the marks.
    have other : ∀ mark : Char, mark.isAlphanum = false → c ≠ mark := by
      rintro mark none rfl
      rw [first] at none
      cases none
    rw [List.cons_append, scan]
    · rw [if_neg (by simp [ink]), if_pos letter, taken, dropped, read]
      rfl
    · exact fun later same _ => other '-' (by decide) same
    · exact other '-' (by decide)
    · exact other '>' (by decide)
    · exact other '/' (by decide)

/-- Characters that read as tokens scan to them. -/
theorem Reads.scan_eq {chars : List Char} {tokens : List Token} (reads : Reads chars tokens) :
    scan chars = .ok tokens := by
  have scanned := reads [] stops_nil
  rw [List.append_nil] at scanned
  rw [scanned, scan_nil]
  simp [Except.map]

end Token

/-! ## Numerals and hours -/

/-- Decimal digits that denote a value. -/
structure IsNumeral (digits : List Char) (value : Nat) : Prop where
  /-- There is a digit. -/
  nonempty : digits ≠ []
  /-- Every character is a digit. -/
  digit : ∀ c ∈ digits, c.isDigit = true
  /-- The digits denote the value. -/
  value_eq : Text.digitsValue digits = value

/-- The library's numeral of a number denotes it. -/
theorem isNumeral_toDigits (value : Nat) : IsNumeral (Nat.toDigits 10 value) value where
  nonempty := Nat.toDigits_ne_nil
  digit _ present := Nat.isDigit_of_mem_toDigits (by decide) (by decide) present
  value_eq := Nat.ofDigitChars_toDigits (by decide) (by decide)

/-- Zeros in front do not change what a numeral denotes. -/
theorem IsNumeral.zeros {digits : List Char} {value : Nat} (numeral : IsNumeral digits value)
    (count : Nat) : IsNumeral (List.replicate count '0' ++ digits) value where
  nonempty := by simp [numeral.nonempty]
  digit := by
    intro c present
    rcases List.mem_append.mp present with zero | own
    · rw [List.eq_of_mem_replicate zero]
      decide
    · exact numeral.digit c own
  value_eq := by
    rw [← numeral.value_eq]
    induction count with
    | zero => rfl
    | succ count hypothesis =>
      rw [← hypothesis, List.replicate_succ, List.cons_append]
      rfl

/-- A padded numeral denotes its number. -/
theorem isNumeral_padded (width value : Nat) :
    IsNumeral (Text.padded width value).toList value := by
  rw [Text.padded, String.toList_ofList]
  exact (isNumeral_toDigits value).zeros _

namespace IsNumeral

variable {digits : List Char} {value : Nat}

/-- A numeral is a word. -/
theorem isWord (numeral : IsNumeral digits value) : IsWord digits where
  nonempty := numeral.nonempty
  plain := by
    intro c present
    rw [Char.isAlphanum, numeral.digit c present, Bool.or_true]

/-- A numeral is cut from letters after it. -/
theorem span {suffix : List Char} (numeral : IsNumeral digits value)
    (letters : ∀ c ∈ suffix.head?, c.isDigit = false) :
    (digits ++ suffix).takeWhile Char.isDigit = digits ∧
      (digits ++ suffix).dropWhile Char.isDigit = suffix := by
  rw [List.takeWhile_append_of_pos numeral.digit, List.dropWhile_append_of_pos numeral.digit]
  cases suffix with
  | nil => simp
  | cons c rest =>
    have letter : c.isDigit = false := letters c rfl
    simp [letter]

/-- The token of a numeral below 2^32 is its number. -/
theorem ofWord (numeral : IsNumeral digits value) (below : value < UInt32.size) :
    Token.ofWord digits = .ok (.number (UInt32.ofNat value)) := by
  have alone : ∀ c ∈ ([] : List Char).head?, c.isDigit = false := by simp
  have whole := numeral.span alone
  rw [List.append_nil] at whole
  have some : digits.isEmpty = false := by simpa using numeral.nonempty
  have all : digits.all Char.isDigit = true := List.all_eq_true.mpr numeral.digit
  simp [Token.ofWord, Token.ofDigits, whole.1, whole.2, some, Text.readWord, Text.readBelow, all,
    numeral.value_eq, below]

/-- A numeral below 2^32 reads as its number. -/
theorem reads (numeral : IsNumeral digits value) (below : value < UInt32.size) :
    Token.Reads digits [.number (UInt32.ofNat value)] :=
  Token.reads_word numeral.isWord (numeral.ofWord below)

end IsNumeral

/-- The letters of a half of the day, in any case, are two ASCII letters. -/
theorem Meridiem.letters_of_ofLetters? {letters : List Char} {half : Meridiem}
    (named : ofLetters? letters = some half) :
    letters.length = 2 ∧ ∀ c ∈ letters, c.isAlpha = true := by
  have small : letters.map Char.toLower = ['a', 'm'] ∨ letters.map Char.toLower = ['p', 'm'] := by
    unfold ofLetters? at named
    split at named
    · rename_i am
      exact Or.inl am
    · rename_i pm
      exact Or.inr pm
    · contradiction
  constructor
  · rw [← List.length_map Char.toLower]
    rcases small with am | pm
    · rw [am]
      rfl
    · rw [pm]
      rfl
  · intro c present
    have among : c.toLower ∈ letters.map Char.toLower := List.mem_map_of_mem present
    refine isAlpha_of_toLower ?_
    rcases small with am | pm
    · rw [am] at among
      exact List.all_eq_true.mp (by decide : ['a', 'm'].all Char.isAlpha = true) _ among
    · rw [pm] at among
      exact List.all_eq_true.mp (by decide : ['p', 'm'].all Char.isAlpha = true) _ among

/-- Digits and letters that write an hour of the 12-hour clock. -/
structure IsHourWord (digits letters : List Char) (value : Nat) (half : Meridiem) : Prop where
  /-- The digits denote the hour. -/
  numeral : IsNumeral digits value
  /-- There are one or two of them. -/
  short : digits.length ≤ 2
  /-- The clock shows the hour. -/
  inside : 1 ≤ value ∧ value ≤ 12
  /-- The letters name the half of the day. -/
  named : Meridiem.ofLetters? letters = some half

namespace IsHourWord

variable {digits letters : List Char} {value : Nat} {half : Meridiem}

/-- The letters are a word. -/
theorem isWord_letters (word : IsHourWord digits letters value half) : IsWord letters := by
  obtain ⟨two, alpha⟩ := Meridiem.letters_of_ofLetters? word.named
  refine ⟨fun none => ?_, fun c present => by simp [Char.isAlphanum, alpha c present]⟩
  rw [none] at two
  cases two

/-- The digits end where the letters begin. -/
theorem head_letters (word : IsHourWord digits letters value half) :
    ∀ c ∈ letters.head?, c.isDigit = false := by
  obtain ⟨-, alpha⟩ := Meridiem.letters_of_ofLetters? word.named
  exact fun c first => not_isDigit_of_isAlpha (alpha c (List.mem_of_head? first))

/-- The hour is one of the clock. -/
theorem exists_clock (word : IsHourWord digits letters value half) :
    ∃ clock, ClockHour.ofTwelve? value half = some clock := by
  cases half with
  | am => exact ⟨_, dif_pos word.inside⟩
  | pm => exact ⟨_, dif_pos word.inside⟩

/-- The token of an hour in one word is the hour. -/
theorem ofWord {clock : ClockHour} (word : IsHourWord digits letters value half)
    (shown : ClockHour.ofTwelve? value half = some clock) :
    Token.ofWord (digits ++ letters) = .ok (.hour clock) := by
  have some : digits.isEmpty = false := by simpa using word.numeral.nonempty
  have suffix : letters.isEmpty = false := by simpa using word.isWord_letters.nonempty
  obtain ⟨taken, dropped⟩ := word.numeral.span word.head_letters
  simp [Token.ofWord, taken, dropped, some, Token.ofDigits, suffix, word.named,
    Token.hourOfDigits?, word.short, word.numeral.value_eq, shown]

/-- The token of the letters alone is the half of the day. -/
theorem ofWord_letters (word : IsHourWord digits letters value half) :
    Token.ofWord letters = .ok (.meridiem half) := by
  obtain ⟨two, -⟩ := Meridiem.letters_of_ofLetters? word.named
  have digitless : letters.takeWhile Char.isDigit = [] := by
    cases letters with
    | nil => rfl
    | cons c rest => simp [word.head_letters c rfl]
  -- The names of the days of the week are longer.
  have noDay : Weekday.ofName? (String.ofList letters) = none := by
    cases read : Weekday.ofName? (String.ofList letters) with
    | none => rfl
    | some day =>
      have same : letters = day.name.toList := by
        rw [← Weekday.name_of_ofName? read, String.toList_ofList]
      rw [same] at two
      cases day <;> exact absurd two (by decide)
  simp [Token.ofWord, digitless, Token.ofName, noDay, word.named]

end IsHourWord

/-- The number of a 12-hour literal is at most twelve. -/
theorem ClockHour.twelve_le (clock : ClockHour) : clock.twelve ≤ 12 := by
  unfold twelve
  split <;> omega

/-- The characters of a 12-hour literal. -/
theorem ClockHour.toList_text (clock : ClockHour) :
    clock.text.toList = Nat.toDigits 10 clock.twelve ++ clock.half.text.toList := by
  rw [text, String.toList_append, Nat.toString_eq_repr, Nat.toList_repr]

/-- A 12-hour literal writes an hour of the clock. -/
theorem ClockHour.isHourWord_text (clock : ClockHour) :
    IsHourWord (Nat.toDigits 10 clock.twelve) clock.half.text.toList clock.twelve clock.half where
  numeral := isNumeral_toDigits clock.twelve
  short := by
    rw [Nat.length_toDigits_le_iff (by decide) (by decide)]
    exact Nat.lt_of_le_of_lt clock.twelve_le (by decide)
  inside := by
    refine ⟨?_, clock.twelve_le⟩
    unfold twelve
    split <;> omega
  named := by cases clock.half <;> decide

/-- A 12-hour literal is a word. -/
theorem ClockHour.isWord_text (clock : ClockHour) : IsWord clock.text.toList := by
  rw [clock.toList_text]
  exact clock.isHourWord_text.numeral.isWord.append clock.isHourWord_text.isWord_letters

/-- A 12-hour literal reads as its hour. -/
theorem ClockHour.reads_text (clock : ClockHour) :
    Token.Reads clock.text.toList [.hour clock] := by
  apply Token.reads_word clock.isWord_text
  rw [clock.toList_text]
  exact clock.isHourWord_text.ofWord clock.ofTwelve?_twelve

/-- The name of a day of the week is a word. -/
theorem Weekday.isWord_name (day : Weekday) : IsWord day.name.toList := by
  cases day <;> exact isWord_of_all (by decide)

/-- The name of a day of the week reads as the day. -/
theorem Weekday.reads_name (day : Weekday) : Token.Reads day.name.toList [.weekday day] := by
  apply Token.reads_word day.isWord_name
  have letters : day.name.toList.takeWhile Char.isDigit = [] := by
    cases day <;> decide
  rw [Token.ofWord, letters]
  show Except.ok (Token.ofName day.name.toList) = .ok (.weekday day)
  rw [Token.ofName, String.ofList_toList, Weekday.ofName?_name]

end OffHours
