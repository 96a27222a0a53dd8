import OffHours.Proofs.Schedule.Chunks
import OffHours.Proofs.Schedule.Spellings

/-!
# Words of a date

Seven rows of words and marks write a date, four of them with a year: `DateWords` lists them with
the numbers that they write, whatever their size. A segment is read as a date exactly when its
words are such a row and each of the numbers fits into a word of 32 bits.
-/

namespace OffHours

namespace Token

/-! ## Chunks with a place in a date -/

/-- What a name can mean. -/
theorem ofName_cases (word : List Char) :
    (∃ day, ofName word = weekday day) ∨ (∃ half, ofName word = meridiem half) ∨
      (∃ found, ofName word = month found ∧ monthOfName? word = some found) ∨
      ∃ text, ofName word = Token.word text := by
  unfold ofName
  split
  · exact Or.inl ⟨_, rfl⟩
  · split
    · exact Or.inr (Or.inl ⟨_, rfl⟩)
    · split
      · rename_i named
        exact Or.inr (Or.inr (Or.inl ⟨_, rfl, named⟩))
      · exact Or.inr (Or.inr (Or.inr ⟨_, rfl⟩))

/-- What digits with letters behind them can mean. -/
theorem ofDigits_cases {digits suffix : List Char} {token : Token}
    (read : ofDigits digits suffix = .ok token) :
    (∃ clock, token = hour clock) ∨ (∃ text, token = word text) ∨
      ∃ value, token = number value ∧ Text.readWord digits = some value ∧
        (suffix = [] ∨ isOrdinalEnding suffix = true) := by
  have plain : ∀ text, ((Text.readWord digits).map number).getD (word text) = word text ∨
      ∃ value, ((Text.readWord digits).map number).getD (word text) = number value ∧
        Text.readWord digits = some value := by
    intro text
    cases Text.readWord digits with
    | none => exact Or.inl rfl
    | some value => exact Or.inr ⟨value, rfl, rfl⟩
  unfold ofDigits at read
  dsimp only at read
  split at read
  · rename_i bare
    obtain rfl := Except.ok.inj read
    rcases plain (String.ofList (digits ++ suffix)) with other | ⟨value, same, known⟩
    · exact Or.inr (Or.inl ⟨_, other⟩)
    · exact Or.inr (Or.inr ⟨value, same, known, Or.inl (List.isEmpty_iff.mp bare)⟩)
  · split at read
    · split at read
      · cases read
        exact Or.inl ⟨_, rfl⟩
      · cases read
    · split at read
      · rename_i ending
        obtain rfl := Except.ok.inj read
        rcases plain (String.ofList (digits ++ suffix)) with other | ⟨value, same, known⟩
        · exact Or.inr (Or.inl ⟨_, other⟩)
        · exact Or.inr (Or.inr ⟨value, same, known, Or.inr ending⟩)
      · cases read
        exact Or.inr (Or.inl ⟨_, rfl⟩)

/-- A read word of 32 bits is the value of its digits. -/
theorem toNat_of_readWord {digits : List Char} {value : UInt32}
    (read : Text.readWord digits = some value) : value.toNat = Text.digitsValue digits := by
  obtain ⟨number, below, rfl⟩ := Option.map_eq_some_iff.mp read
  rw [UInt32.toNat_ofNat_of_lt' (Text.readBelow_lt below)]
  unfold Text.readBelow at below
  split at below
  · contradiction
  · split at below
    · exact (Option.some.inj below).symm
    · contradiction

/-- A chunk that has a place in a date, with its token. -/
inductive DateChunk : List Char → Token → Prop where
  /-- A number. -/
  | number {chunk : List Char} {value : UInt32} (ordinal : IsOrdinal chunk value.toNat) :
      DateChunk chunk (.number value)
  /-- The name of a month. -/
  | month {chunk : List Char} {found : Nat} (named : monthOfName? chunk = some found) :
      DateChunk chunk (.month found)
  /-- A dash. -/
  | dash : DateChunk ['-'] (.mark .dash)
  /-- A slash. -/
  | slash : DateChunk ['/'] (.mark .slash)

/-- A word with a place in a date is a number or the name of a month. -/
theorem dateChunk_of_ofWord {word : List Char} {token : Token} (read : ofWord word = .ok token)
    (place : token.isOfDate = true) : DateChunk word token := by
  unfold ofWord at read
  dsimp only at read
  split at read
  · obtain rfl := Except.ok.inj read
    rcases ofName_cases word with ⟨_, same⟩ | ⟨_, same⟩ | ⟨found, same, named⟩ | ⟨_, same⟩
    · simp [same, isOfDate] at place
    · simp [same, isOfDate] at place
    · rw [same]
      exact .month named
    · simp [same, isOfDate] at place
  · rename_i nonempty
    rcases ofDigits_cases read with ⟨_, rfl⟩ | ⟨_, rfl⟩ | ⟨value, rfl, known, ending⟩
    · simp [isOfDate] at place
    · simp [isOfDate] at place
    · have numeral : IsNumeral (word.takeWhile Char.isDigit) value.toNat :=
        ⟨by simpa using nonempty, List.all_eq_true.mp List.all_takeWhile,
          (toNat_of_readWord known).symm⟩
      have ordinal : IsOrdinal (word.takeWhile Char.isDigit ++ word.dropWhile Char.isDigit)
          value.toNat := by
        rcases ending with bare | ending
        · rw [bare, List.append_nil]
          exact .plain numeral
        · exact .ending numeral ending
      rw [List.takeWhile_append_dropWhile] at ordinal
      exact .number ordinal

/-- A chunk with the token of a place in a date has a place in it. -/
theorem dateChunk_of_ofChunk {chunk : List Char} {token : Token} (read : ofChunk chunk = .ok token)
    (place : token.isOfDate = true) : DateChunk chunk token := by
  unfold ofChunk at read
  split at read
  · exact dateChunk_of_ofWord read place
  · obtain rfl := Except.ok.inj read
    unfold ofMark at place ⊢
    split at place
    · cases place
    · cases place
    · exact .dash
    · exact .slash
    · cases place

/-- The chunks of a date have places in it. -/
theorem dateChunks_of_mapM {chunks : List (List Char)} {tokens : List Token}
    (read : chunks.mapM ofChunk = .ok tokens) (places : tokens.all isOfDate = true) :
    List.Forall₂ DateChunk chunks tokens := by
  induction chunks generalizing tokens with
  | nil =>
    cases read
    exact .nil
  | cons chunk rest hypothesis =>
    cases first : ofChunk chunk with
    | error fault =>
      rw [List.mapM_cons, first] at read
      cases read
    | ok token =>
      rw [mapM_ofChunk_cons rest first] at read
      obtain ⟨others, further, rfl⟩ := Schedule.exists_of_map_eq_ok read
      rw [List.all_cons, Bool.and_eq_true] at places
      exact .cons (dateChunk_of_ofChunk first places.1) (hypothesis further places.2)

end Token

/-! ## Rows of words -/

/-- Words and marks that write a date: the year, if there is one, the month and the day. A year
beside marks has four digits or more. -/
inductive DateWords : Option Nat → Nat → Nat → List (List Char) → Prop where
  /-- The month by name and the day. -/
  | nameFirst {name number : List Char} {month day : Nat}
      (named : Token.monthOfName? name = some month) (onDay : IsOrdinal number day) :
      DateWords none month day [name, number]
  /-- The day and the month by name. -/
  | dayFirst {name number : List Char} {month day : Nat}
      (named : Token.monthOfName? name = some month) (onDay : IsOrdinal number day) :
      DateWords none month day [number, name]
  /-- The month and the day with a slash. -/
  | slash {numeral number : List Char} {month day : Nat} (inMonth : IsOrdinal numeral month)
      (onDay : IsOrdinal number day) : DateWords none month day [numeral, ['/'], number]
  /-- The month by name, the day and the year. -/
  | nameFirstYear {name number digits : List Char} {year month day : Nat}
      (named : Token.monthOfName? name = some month) (onDay : IsOrdinal number day)
      (inYear : IsOrdinal digits year) : DateWords (some year) month day [name, number, digits]
  /-- The day, the month by name and the year. -/
  | dayFirstYear {name number digits : List Char} {year month day : Nat}
      (named : Token.monthOfName? name = some month) (onDay : IsOrdinal number day)
      (inYear : IsOrdinal digits year) : DateWords (some year) month day [number, name, digits]
  /-- The year, the month and the day with dashes. -/
  | dashes {numeral number digits : List Char} {year month day : Nat}
      (inYear : IsOrdinal digits year) (inMonth : IsOrdinal numeral month)
      (onDay : IsOrdinal number day) (long : 1000 ≤ year) :
      DateWords (some year) month day [digits, ['-'], numeral, ['-'], number]
  /-- The month, the day and the year with slashes. -/
  | slashes {numeral number digits : List Char} {year month day : Nat}
      (inMonth : IsOrdinal numeral month) (onDay : IsOrdinal number day)
      (inYear : IsOrdinal digits year) (long : 1000 ≤ year) :
      DateWords (some year) month day [numeral, ['/'], number, ['/'], digits]

/-- Each number of a date fits into a word of 32 bits. -/
def FitsWords (year : Option Nat) (month day : Nat) : Prop :=
  (∀ number ∈ year, number < UInt32.size) ∧ month < UInt32.size ∧ day < UInt32.size

/-- Tokens that are read as a date come from words that write it. -/
theorem dateWords_of_tokens {chunks : List (List Char)} {tokens : List Token}
    {literal : DateLiteral} (chunked : List.Forall₂ Token.DateChunk chunks tokens)
    (dated : DateLiteral.ofTokens? tokens = some literal) :
    DateWords (literal.year.map UInt32.toNat) literal.month literal.day chunks := by
  unfold DateLiteral.ofTokens? at dated
  split at dated
  · obtain _ | ⟨_ | named, _ | ⟨⟨onDay⟩, ⟨⟩⟩⟩ := chunked
    cases dated
    exact .nameFirst named onDay
  · obtain _ | ⟨⟨onDay⟩, _ | ⟨_ | named, ⟨⟩⟩⟩ := chunked
    cases dated
    exact .dayFirst named onDay
  · obtain _ | ⟨_ | named, _ | ⟨⟨onDay⟩, _ | ⟨⟨inYear⟩, ⟨⟩⟩⟩⟩ := chunked
    cases dated
    exact .nameFirstYear named onDay inYear
  · obtain _ | ⟨⟨onDay⟩, _ | ⟨_ | named, _ | ⟨⟨inYear⟩, ⟨⟩⟩⟩⟩ := chunked
    cases dated
    exact .dayFirstYear named onDay inYear
  · obtain _ | ⟨⟨inYear⟩, _ | ⟨⟨⟩, _ | ⟨⟨inMonth⟩, _ | ⟨⟨⟩, _ | ⟨⟨onDay⟩, ⟨⟩⟩⟩⟩⟩⟩ := chunked
    split at dated
    · rename_i long
      cases dated
      exact .dashes inYear inMonth onDay (UInt32.le_iff_toNat_le.mp long)
    · cases dated
  · obtain _ | ⟨⟨inMonth⟩, _ | ⟨⟨⟩, _ | ⟨⟨onDay⟩, ⟨⟩⟩⟩⟩ := chunked
    cases dated
    exact .slash inMonth onDay
  · obtain _ | ⟨⟨inMonth⟩, _ | ⟨⟨⟩, _ | ⟨⟨onDay⟩, _ | ⟨⟨⟩, _ | ⟨⟨inYear⟩, ⟨⟩⟩⟩⟩⟩⟩ := chunked
    split at dated
    · rename_i long
      cases dated
      exact .slashes inMonth onDay inYear (UInt32.le_iff_toNat_le.mp long)
    · cases dated
  · cases dated

/-- A word of ASCII letters and digits has its own token. -/
theorem IsWord.ofChunk {word : List Char} (isWord : IsWord word) :
    Token.ofChunk word = Token.ofWord word := by
  obtain ⟨nonempty, plain⟩ := isWord
  cases word with
  | nil => exact absurd rfl nonempty
  | cons c letters =>
    exact Token.ofChunk_word (isAlphanumeric_of_isAlphanum (plain c List.mem_cons_self))

/-- The name of a month has the token of the month. -/
theorem ofChunk_month {name : List Char} {month : Nat}
    (named : Token.monthOfName? name = some month) : Token.ofChunk name = .ok (.month month) := by
  obtain ⟨isWord, read⟩ := ofWord_month named
  rw [isWord.ofChunk, read]

/-- There are twelve months, so a month by name fits into 32 bits. -/
theorem small_of_named {name : List Char} {month : Nat}
    (named : Token.monthOfName? name = some month) : month < UInt32.size := by
  have few : month ≤ 12 := by
    unfold Token.monthOfName? at named
    dsimp only at named
    split at named
    · cases named
      decide
    · obtain ⟨position, found, rfl⟩ := Option.map_eq_some_iff.mp named
      obtain ⟨inside, -⟩ := List.findIdx?_eq_some_iff_getElem.mp found
      exact inside
  exact Nat.lt_of_le_of_lt few (by decide)

/-- A chunk that writes a number has the token of the number. -/
theorem IsOrdinal.ofChunk {chunk : List Char} {value : Nat} (ordinal : IsOrdinal chunk value) :
    Token.ofChunk chunk = .ok (numberToken chunk value) := by
  obtain ⟨isWord, read⟩ := ordinal.ofWord
  rw [isWord.ofChunk, read]

/-- The token of a number has a place in a date exactly when the number fits into 32 bits. -/
@[simp] theorem isOfDate_numberToken (chunk : List Char) (value : Nat) :
    (numberToken chunk value).isOfDate = decide (value < UInt32.size) := by
  by_cases fits : value < UInt32.size
  · simp [numberToken, fits, Token.isOfDate]
  · simp [numberToken, fits, Token.isOfDate]

/-- The token of a number says nothing outside a date. -/
@[simp] theorem isIdle_numberToken (chunk : List Char) (value : Nat) :
    (numberToken chunk value).isIdle = true := by
  unfold numberToken
  split <;> rfl

/-- Chunks that each have a token have them together. -/
theorem mapM_ofChunk {chunks : List (List Char)} {tokens : List Token}
    (said : List.Forall₂ (fun chunk token => Token.ofChunk chunk = .ok token) chunks tokens) :
    chunks.mapM Token.ofChunk = .ok tokens := by
  induction said with
  | nil => rfl
  | cons first _ hypothesis =>
    rw [Token.mapM_ofChunk_cons _ first, hypothesis]
    rfl

/-- The words of a date have tokens that say nothing outside a date. All of them have a place in
a date when each of its numbers fits into 32 bits, and then they are the date. -/
structure DateTokens (year : Option Nat) (month day : Nat) (tokens : List Token) : Prop where
  /-- There is a token. -/
  nonempty : tokens.isEmpty = false
  /-- The tokens say nothing outside a date. -/
  idle : ∀ token ∈ tokens, token.isIdle = true
  /-- A number that is too large has no place in a date. -/
  places : tokens.all Token.isOfDate = true ↔ FitsWords year month day
  /-- Without such a number they are the date. -/
  dated : FitsWords year month day →
    DateLiteral.ofTokens? tokens = some ⟨month, day, year.map UInt32.ofNat⟩

/-- The words of a date have the tokens of one. -/
theorem DateWords.tokens {year : Option Nat} {month day : Nat} {chunks : List (List Char)}
    (words : DateWords year month day chunks) :
    ∃ tokens, chunks.mapM Token.ofChunk = .ok tokens ∧ DateTokens year month day tokens := by
  have dash : Token.ofChunk ['-'] = .ok (.mark .dash) := by decide
  have slash : Token.ofChunk ['/'] = .ok (.mark .slash) := by decide
  cases words with
  | nameFirst named onDay =>
    have small := small_of_named named
    refine ⟨_, mapM_ofChunk (.cons (ofChunk_month named) (.cons onDay.ofChunk .nil)), rfl,
      by simp, by simp [FitsWords, small], ?_⟩
    rintro ⟨-, -, days⟩
    simp [numberToken, DateLiteral.ofTokens?, days, UInt32.toNat_ofNat_of_lt' days]
  | dayFirst named onDay =>
    have small := small_of_named named
    refine ⟨_, mapM_ofChunk (.cons onDay.ofChunk (.cons (ofChunk_month named) .nil)), rfl,
      by simp, by simp [FitsWords, small], ?_⟩
    rintro ⟨-, -, days⟩
    simp [numberToken, DateLiteral.ofTokens?, days, UInt32.toNat_ofNat_of_lt' days]
  | slash inMonth onDay =>
    refine ⟨_, mapM_ofChunk (.cons inMonth.ofChunk (.cons slash (.cons onDay.ofChunk .nil))), rfl,
      by simp, by simp [FitsWords], ?_⟩
    rintro ⟨-, months, days⟩
    simp [numberToken, DateLiteral.ofTokens?, months, days, UInt32.toNat_ofNat_of_lt' months,
      UInt32.toNat_ofNat_of_lt' days]
  | nameFirstYear named onDay inYear =>
    have small := small_of_named named
    refine ⟨_, mapM_ofChunk (.cons (ofChunk_month named) (.cons onDay.ofChunk
      (.cons inYear.ofChunk .nil))), rfl, by simp, by simp [FitsWords, small, and_comm], ?_⟩
    rintro ⟨years, -, days⟩
    simp [numberToken, DateLiteral.ofTokens?, years _ rfl, days, UInt32.toNat_ofNat_of_lt' days]
  | dayFirstYear named onDay inYear =>
    have small := small_of_named named
    refine ⟨_, mapM_ofChunk (.cons onDay.ofChunk (.cons (ofChunk_month named)
      (.cons inYear.ofChunk .nil))), rfl, by simp, by simp [FitsWords, small, and_comm], ?_⟩
    rintro ⟨years, -, days⟩
    simp [numberToken, DateLiteral.ofTokens?, years _ rfl, days, UInt32.toNat_ofNat_of_lt' days]
  | dashes inYear inMonth onDay long =>
    refine ⟨_, mapM_ofChunk (.cons inYear.ofChunk (.cons dash (.cons inMonth.ofChunk (.cons dash
      (.cons onDay.ofChunk .nil))))), rfl, by simp, by simp [FitsWords], ?_⟩
    rintro ⟨years, months, days⟩
    simp [numberToken, DateLiteral.ofTokens?, years _ rfl, months, days,
      le_ofNat_of_long long (years _ rfl), UInt32.toNat_ofNat_of_lt' months,
      UInt32.toNat_ofNat_of_lt' days]
  | slashes inMonth onDay inYear long =>
    refine ⟨_, mapM_ofChunk (.cons inMonth.ofChunk (.cons slash (.cons onDay.ofChunk (.cons slash
      (.cons inYear.ofChunk .nil))))), rfl, by simp, by simp [FitsWords]; tauto, ?_⟩
    rintro ⟨years, months, days⟩
    simp [numberToken, DateLiteral.ofTokens?, years _ rfl, months, days,
      le_ofNat_of_long long (years _ rfl), UInt32.toNat_ofNat_of_lt' months,
      UInt32.toNat_ofNat_of_lt' days]

/-! ## Segments of these words -/

namespace Schedule

variable {year : Option Nat} {month day : Nat} {text : List Char}

/-- A segment of the words of a date says the date when each of its numbers fits into 32 bits,
and nothing otherwise. -/
theorem partFinding_of_dateWords (words : DateWords year month day (Token.chunks text)) :
    (FitsWords year month day → partFinding text =
      (⟨month, day, year.map UInt32.ofNat⟩ : DateLiteral).rule.map Segment.date) ∧
    (¬ FitsWords year month day → partFinding text = .error .unrecognized) := by
  obtain ⟨tokens, read, row⟩ := words.tokens
  have found : partFinding text = (Segment.ofTokens tokens).map Prod.fst := by
    rw [partFinding_eq_scan, Token.scan_eq_mapM, read]
    rfl
  rw [found]
  constructor
  · intro fits
    have gives := row.dated fits
    cases rule : (⟨month, day, year.map UInt32.ofNat⟩ : DateLiteral).rule <;>
      simp [Segment.ofTokens, row.nonempty, gives, rule, Except.map]
  · intro wide
    have other : tokens.all Token.isOfDate = false := by simpa [wide] using row.places
    simp [Segment.ofTokens, row.nonempty, DateLiteral.ofTokens?_of_other other,
      Segment.yearOfTokens?_of_other other, items_idle row.idle, Segment.ofItems, bind,
      Except.bind, Except.map]

/-- A segment that says something has tokens that say it. -/
theorem exists_tokens_of_partFinding {said : Segment} (found : partFinding text = .ok said) :
    ∃ tokens ignored, (Token.chunks text).mapM Token.ofChunk = .ok tokens ∧
      Segment.ofTokens tokens = .ok (said, ignored) := by
  obtain ⟨tokens, ignored, read, meant⟩ := exists_tokens_of_finding found
  rw [Token.ofText, String.toList_ofList, Token.scan_trimChars, Token.scan_eq_mapM] at read
  exact ⟨tokens, ignored, read, meant⟩

/-- The items of a segment say neither a date nor a year. -/
theorem ofItems_cases {items : SegmentItems} {said : Segment}
    (together : Segment.ofItems items = .ok said) :
    (∃ days, said = .weekdays days) ∨ ∃ days hours, said = .window days hours := by
  unfold Segment.ofItems at together
  split at together
  · split at together
    · contradiction
    · exact Or.inl ⟨_, (Except.ok.inj together).symm⟩
  · exact Or.inr ⟨_, _, (Except.ok.inj together).symm⟩
  · contradiction

/-- A segment that says a date has the words of one, whose numbers fit and give the rule. -/
theorem dateWords_of_partFinding {rule : DateRule} (said : partFinding text = .ok (.date rule)) :
    ∃ literal : DateLiteral, literal.rule = .ok rule ∧
      DateWords (literal.year.map UInt32.toNat) literal.month literal.day (Token.chunks text) := by
  obtain ⟨tokens, ignored, read, meant⟩ := exists_tokens_of_partFinding said
  rcases cases_of_ofTokens meant with ⟨literal, given, dated, gives, same⟩ | ⟨_, _, same⟩ |
    ⟨items, _, together⟩
  · cases same
    have places : tokens.all Token.isOfDate = true := by
      rw [← Bool.not_eq_false]
      intro other
      rw [DateLiteral.ofTokens?_of_other other] at dated
      cases dated
    exact ⟨literal, gives, dateWords_of_tokens (Token.dateChunks_of_mapM read places) dated⟩
  · cases same
  · rcases ofItems_cases together with ⟨_, same⟩ | ⟨_, _, same⟩ <;> cases same

/-- A segment says a year exactly when it is one word that writes a number of four digits. -/
theorem partFinding_eq_year_iff {number : Nat} :
    partFinding text = .ok (.year number) ↔
      (∃ word, Token.chunks text = [word] ∧ IsOrdinal word number) ∧
        1000 ≤ number ∧ number ≤ 9999 := by
  constructor
  · intro said
    obtain ⟨tokens, ignored, read, meant⟩ := exists_tokens_of_partFinding said
    rcases cases_of_ofTokens meant with ⟨_, _, _, _, same⟩ | ⟨written, numbered, same⟩ |
      ⟨items, _, together⟩
    · cases same
    · cases same
      unfold Segment.yearOfTokens? at numbered
      split at numbered
      · split at numbered
        · rename_i value four
          obtain rfl := Option.some.inj numbered
          have chunked := Token.dateChunks_of_mapM read rfl
          generalize Token.chunks text = chunks at chunked
          obtain _ | ⟨⟨inYear⟩, ⟨⟩⟩ := chunked
          exact ⟨⟨_, rfl, inYear⟩, UInt32.le_iff_toNat_le.mp four.1,
            UInt32.le_iff_toNat_le.mp four.2⟩
        · cases numbered
      · cases numbered
    · rcases ofItems_cases together with ⟨_, same⟩ | ⟨_, _, same⟩ <;> cases same
  · rintro ⟨⟨word, alone, inYear⟩, four⟩
    have small : number < UInt32.size := Nat.lt_of_le_of_lt four.2 (by decide)
    have value : (UInt32.ofNat number).toNat = number := UInt32.toNat_ofNat_of_lt' small
    have bounds : 1000 ≤ UInt32.ofNat number ∧ UInt32.ofNat number ≤ 9999 := by
      rw [UInt32.le_iff_toNat_le, UInt32.le_iff_toNat_le, value]
      exact four
    have read : (Token.chunks text).mapM Token.ofChunk =
        .ok [.number (UInt32.ofNat number)] := by
      rw [alone, mapM_ofChunk (.cons inYear.ofChunk .nil), numberToken, if_pos small]
    rw [partFinding_eq_scan, Token.scan_eq_mapM, read]
    simp [Segment.ofTokens, DateLiteral.ofTokens?, Segment.yearOfTokens?, bounds, value, bind,
      Except.bind, Except.map]

end Schedule

end OffHours
