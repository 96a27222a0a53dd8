import Mathlib.Data.List.DropRight
import OffHours.Proofs.Schedule.Scanning
import OffHours.Url.Parser

/-!
# Origins of addresses

The origin of an address of the web is told by its scheme and its authority, which goes up to the
first slash, backslash, question mark or number sign. So whatever is written after an address from
such a character on changes nothing about its origin (`Url.origin_eq_of_opens`). Two things need
care. Blanks at the end of a text are passed over, but not when something is written after them;
then no host and no port can be read. And slashes after a bare scheme are followed by an authority;
but a bare scheme with slashes denotes nothing.
-/

namespace OffHours.Url

/-! ## Authorities -/

/-- Characters that end the authority of an address of the web. -/
def endsAuthority (c : Char) : Bool := isSlash true c || c = '?' || c = '#'

/-- There are four of them. -/
theorem endsAuthority_iff {c : Char} :
    endsAuthority c = true ↔ c = '/' ∨ c = '\\' ∨ c = '?' ∨ c = '#' := by
  simp [endsAuthority, isSlash, or_assoc]

/-- The authority of an address of the web, from what stands after the colon of its scheme. -/
def authority (rest : List Char) : List Char :=
  (rest.dropWhile (isSlash true)).takeWhile fun c => !endsAuthority c

/-- What stands before a character. -/
theorem splitAt_fst (c : Char) (chars : List Char) :
    (splitAt c chars).1 = chars.takeWhile (· ≠ c) := by
  rw [splitAt]
  split
  · rename_i none
    have absent : ∀ other ∈ chars, decide (other ≠ c) = true := List.dropWhile_eq_nil_iff.mp none
    exact (List.takeWhile_eq_self_iff.mpr absent).symm
  · rfl

/-- What goes on up to one character may be skipped at its front and cut at others. -/
theorem takeWhile_dropWhile_takeWhile {slash further : Char → Bool}
    (skips : ∀ c, slash c = true → further c = true) (rest : List Char) :
    ((rest.takeWhile further).dropWhile slash).takeWhile (fun c => !slash c) =
      (rest.dropWhile slash).takeWhile fun c => !slash c && further c := by
  induction rest with
  | nil => rfl
  | cons c rest hypothesis =>
    by_cases skipped : slash c = true
    · rw [List.takeWhile_cons_of_pos (skips c skipped), List.dropWhile_cons_of_pos skipped,
        List.dropWhile_cons_of_pos skipped, hypothesis]
    · rw [List.dropWhile_cons_of_neg skipped]
      by_cases kept : further c = true
      · rw [List.takeWhile_cons_of_pos kept, List.dropWhile_cons_of_neg skipped]
        rw [Bool.not_eq_true] at skipped
        simp [List.takeWhile_takeWhile, skipped, kept]
      · rw [List.takeWhile_cons_of_neg kept, List.takeWhile_cons_of_neg (by simp [kept])]
        rfl

/-- The authority is what is left of query and fragment up to a slash. -/
theorem authority_eq (rest : List Char) :
    (((splitAt '?' (splitAt '#' rest).1).1).dropWhile (isSlash true)).takeWhile
      (fun c => !isSlash true c) = authority rest := by
  have skips : ∀ c, isSlash true c = true →
      decide (decide (c ≠ '?') = true ∧ decide (c ≠ '#') = true) = true := by
    intro c slash
    have query : c ≠ '?' := by
      rintro rfl
      exact absurd slash (by decide)
    have fragment : c ≠ '#' := by
      rintro rfl
      exact absurd slash (by decide)
    simp [query, fragment]
  rw [splitAt_fst, splitAt_fst, authority, List.takeWhile_takeWhile,
    takeWhile_dropWhile_takeWhile skips]
  congr 1
  funext c
  simp [endsAuthority, Bool.and_assoc]

/-- The origin that a scheme of the web and an authority make. -/
def MakeOrigin (scheme : String) (authority : List Char)
    (origin : String × Option Host × Option Nat) : Prop :=
  ∃ host port, Host.ofWeb (splitPort false (splitUser authority).2).1 = .ok host ∧
    portOf scheme ((splitPort false (splitUser authority).2).2.getD []) = .ok port ∧
      origin = (scheme, some host, port)

/-- Scheme and authority make one origin. -/
theorem MakeOrigin.unique {scheme : String} {authority : List Char}
    {first second : String × Option Host × Option Nat}
    (one : MakeOrigin scheme authority first) (other : MakeOrigin scheme authority second) :
    first = second := by
  obtain ⟨host, port, named, placed, rfl⟩ := one
  obtain ⟨_, _, again, also, rfl⟩ := other
  rw [named] at again
  rw [placed] at also
  rw [Except.ok.inj again, Except.ok.inj also]

/-- An address with an authority has the origin of its scheme and authority. -/
theorem makeOrigin_of_withAuthority {scheme : String} {authority : List Char} {path : UrlPath}
    {url : Url} (web : isWeb scheme = true) (made : withAuthority scheme authority path = .ok url) :
    MakeOrigin scheme authority url.origin := by
  simp only [withAuthority, web, ↓reduceIte, bind, Except.bind] at made
  split at made
  · cases made
  · rename_i host named
    split at made
    · cases made
    · split at made
      · cases made
      · rename_i port placed
        cases made
        exact ⟨host, port, named, placed, rfl⟩

/-- An address of the web has the origin of its scheme and authority. -/
theorem makeOrigin_of_parse {text : String} {url : Url} {scheme : String} {rest : List Char}
    (parsed : parse text = .ok url)
    (begins : scheme? (significant text.toList) = some (scheme, rest))
    (web : isWeb scheme = true) : MakeOrigin scheme (authority rest) url.origin := by
  simp only [parse, begins, web, ↓reduceIte, bind, Except.bind] at parsed
  split at parsed
  · cases parsed
  · rename_i plain made
    rw [ofWeb] at made
    cases parsed
    have origin := makeOrigin_of_withAuthority web made
    rwa [authority_eq] at origin

/-- An address with an authority has the scheme that it is made with. -/
theorem scheme_of_withAuthority {scheme : String} {authority : List Char} {path : UrlPath}
    {url : Url} (made : withAuthority scheme authority path = .ok url) : url.scheme = scheme := by
  simp only [withAuthority, bind, Except.bind] at made
  repeat' split at made
  all_goals cases made
  all_goals rfl

/-- The address of a file has the scheme of files. -/
theorem scheme_of_ofFile {chars : List Char} {url : Url} (made : ofFile chars = .ok url) :
    url.scheme = "file" := by
  simp only [ofFile, bind, Except.bind] at made
  repeat' split at made
  all_goals cases made
  all_goals rfl

/-- An address of another scheme has that scheme. -/
theorem scheme_of_ofOther {scheme : String} {chars : List Char} {url : Url}
    (made : ofOther scheme chars = .ok url) : url.scheme = scheme := by
  rw [ofOther.eq_def] at made
  split at made
  · exact scheme_of_withAuthority made
  · cases made
    rfl
  · cases made
    rfl

/-- An address that a text denotes has the scheme that the text begins with. -/
theorem exists_scheme_of_parse {text : String} {url : Url} (parsed : parse text = .ok url) :
    ∃ rest, scheme? (significant text.toList) = some (url.scheme, rest) := by
  cases begins : scheme? (significant text.toList) with
  | none => simp [parse, begins] at parsed
  | some found =>
    obtain ⟨scheme, rest⟩ := found
    refine ⟨rest, ?_⟩
    simp only [parse, begins, bind, Except.bind] at parsed
    by_cases web : isWeb scheme = true
    · simp only [web, ↓reduceIte] at parsed
      split at parsed
      · cases parsed
      · rename_i plain made
        cases parsed
        rw [scheme_of_withAuthority made]
    · by_cases file : scheme = "file"
      · simp only [if_neg web, if_pos file] at parsed
        split at parsed
        · cases parsed
        · rename_i plain made
          cases parsed
          rw [scheme_of_ofFile made, file]
      · simp only [if_neg web, if_neg file] at parsed
        split at parsed
        · cases parsed
        · rename_i plain made
          cases parsed
          rw [scheme_of_ofOther made]

/-! ## Blanks at the end of an authority -/

/-- Blanks and controls, which are passed over at the ends of a text. -/
def isOuter (c : Char) : Bool := c.toNat ≤ 0x20

/-- Blanks and controls are neither letters nor digits. -/
theorem isAlphanum_of_isOuter {c : Char} (outer : isOuter c = true) : c.isAlphanum = false := by
  have low : c.toNat ≤ 32 := of_decide_eq_true outer
  rw [Bool.eq_false_iff]
  intro plain
  have code := toNat_of_isAlphanum plain
  omega

/-- Blanks and controls are not from a character on that can be seen. -/
theorem not_le_of_isOuter {c mark : Char} (outer : isOuter c = true)
    (visible : isOuter mark = false) : ¬ mark ≤ c := by
  have low : c.val.toNat ≤ 32 := of_decide_eq_true outer
  have high : ¬ mark.val.toNat ≤ 32 := of_decide_eq_false visible
  rw [Char.le_def, UInt32.le_iff_toNat_le]
  omega

/-- Blanks and controls are no hexadecimal digits. -/
theorem hexValue?_of_isOuter {c : Char} (outer : isOuter c = true) : Text.hexValue? c = none := by
  have digit : c.isDigit = false := by
    have plain := isAlphanum_of_isOuter outer
    rw [Char.isAlphanum, Bool.or_eq_false_iff] at plain
    exact plain.2
  rw [Text.hexValue?, digit, if_neg Bool.false_ne_true,
    if_neg fun small => not_le_of_isOuter outer rfl small.1,
    if_neg fun capital => not_le_of_isOuter outer rfl capital.1]

/-- Blanks and controls are no capitals. -/
theorem toLower_of_isOuter {c : Char} (outer : isOuter c = true) : c.toLower = c := by
  have low : c.val.toNat ≤ 32 := of_decide_eq_true outer
  unfold Char.toLower
  split
  · -- A capital has a code point from 65 on.
    rename_i capital
    have code : 65 ≤ c.val.toNat := UInt32.le_iff_toNat_le.mp capital.1
    omega
  · rfl

/-- Blanks and controls are no marks of any kind. -/
theorem ne_of_isOuter {c mark : Char} (outer : isOuter c = true) (visible : isOuter mark = false) :
    c ≠ mark := by
  rintro rfl
  rw [outer] at visible
  cases visible

/-- A byte below 128 in the bytes of a character is that character. -/
theorem toNat_of_mem_utf8EncodeChar {c : Char} {byte : UInt8}
    (present : byte ∈ String.utf8EncodeChar c) (plain : byte.toNat < 128) :
    c.toNat = byte.toNat := by
  have value : c.toNat = c.val.toNat := rfl
  simp only [String.utf8EncodeChar] at present
  split at present
  · rw [List.mem_singleton.mp present, UInt8.toNat_ofNat']
    omega
  · -- In the bytes of any other character the highest bit is set.
    exfalso
    split at present
    · simp only [List.mem_cons, List.not_mem_nil, or_false] at present
      rcases present with rfl | rfl <;> rw [UInt8.toNat_ofNat'] at plain <;> omega
    · split at present
      · simp only [List.mem_cons, List.not_mem_nil, or_false] at present
        rcases present with rfl | rfl | rfl <;> rw [UInt8.toNat_ofNat'] at plain <;> omega
      · simp only [List.mem_cons, List.not_mem_nil, or_false] at present
        rcases present with rfl | rfl | rfl | rfl <;> rw [UInt8.toNat_ofNat'] at plain <;> omega

/-- A blank or control is one byte. -/
theorem utf8EncodeChar_of_isOuter {c : Char} (outer : isOuter c = true) :
    String.utf8EncodeChar c = [UInt8.ofNat c.toNat] := by
  have low : c.val.toNat ≤ 32 := of_decide_eq_true outer
  have plain : c.val.toNat ≤ 127 := by omega
  simp only [String.utf8EncodeChar, if_pos plain]
  rfl

/-- A blank or control at the end stands for itself, whatever percent signs are in front of it. -/
theorem mem_decodeBytes {chars : List Char} {c : Char} (outer : isOuter c = true)
    (last : chars.getLast? = some c) : UInt8.ofNat c.toNat ∈ decodeBytes chars := by
  fun_induction decodeBytes chars with
  | case1 => cases last
  | case2 only =>
    obtain rfl : only = c := by simpa using last
    rw [utf8EncodeChar_of_isOuter outer]
    exact List.mem_singleton.mpr rfl
  | case3 first second hypothesis =>
    have behind := hypothesis (by simpa using last)
    exact List.mem_append_right _ behind
  | case4 first high low rest value digit readLow readHigh percent hypothesis =>
    cases rest with
    | nil =>
      -- The last character would be a digit.
      obtain rfl : low = c := by simpa using last
      rw [hexValue?_of_isOuter outer] at readLow
      cases readLow
    | cons next rest =>
      have behind := hypothesis (by simpa using last)
      exact List.mem_cons_of_mem _ behind
  | case5 first high low rest literal hypothesis =>
    have behind := hypothesis (by simpa using last)
    exact List.mem_append_right _ behind

/-- A text whose bytes hold a blank or control holds one. -/
theorem exists_outer_of_fromUTF8? {bytes : List UInt8} {name : String} {byte : UInt8}
    (read : String.fromUTF8? ⟨bytes.toArray⟩ = some name) (present : byte ∈ bytes)
    (low : byte.toNat ≤ 0x20) : ∃ c ∈ name.toList, isOuter c = true := by
  have same : name.toByteArray = ⟨bytes.toArray⟩ := by
    rw [String.fromUTF8?] at read
    split at read
    · cases read
      rfl
    · cases read
  have spelled : name.toList.flatMap String.utf8EncodeChar = bytes := by
    have written : name.toList.utf8Encode = ⟨bytes.toArray⟩ := by
      rw [String.utf8Encode_toList, same]
    have lists := congrArg (fun array => array.data.toList) written
    simpa [List.utf8Encode] using lists
  rw [← spelled, List.mem_flatMap] at present
  obtain ⟨c, inside, byteOf⟩ := present
  have code := toNat_of_mem_utf8EncodeChar byteOf (by omega)
  exact ⟨c, inside, decide_eq_true (by omega)⟩

/-- A character of a text between separators stands in the text. -/
theorem mem_intercalate {separator : List Char} {segments : List (List Char)} {segment : List Char}
    {c : Char} (inside : c ∈ segment) (present : segment ∈ segments) :
    c ∈ separator.intercalate segments := by
  induction segments with
  | nil => exact absurd present List.not_mem_nil
  | cons first rest hypothesis =>
    cases rest with
    | nil =>
      rw [List.intercalate_singleton]
      rwa [List.mem_singleton.mp present] at inside
    | cons second rest =>
      rw [List.intercalate_cons_cons, List.mem_append, List.mem_append]
      rcases List.mem_cons.mp present with rfl | later
      · exact Or.inl (Or.inl inside)
      · exact Or.inr (hypothesis later)

/-- A character other than the separator stands in one of the pieces. -/
theorem exists_mem_pieces {separator c : Char} {items : List Char} (present : c ∈ items)
    (other : c ≠ separator) : ∃ piece ∈ Text.pieces separator items, c ∈ piece := by
  induction items with
  | nil => exact absurd present List.not_mem_nil
  | cons item rest hypothesis =>
    rw [Text.pieces]
    split
    · rename_i same
      rcases List.mem_cons.mp present with rfl | later
      · exact absurd same other
      · obtain ⟨piece, cut, inside⟩ := hypothesis later
        exact ⟨piece, List.mem_cons_of_mem _ cut, inside⟩
    · cases shape : Text.pieces separator rest with
      | nil => exact absurd shape (Text.pieces_ne_nil separator rest)
      | cons first others =>
        rcases List.mem_cons.mp present with rfl | later
        · exact ⟨_, List.mem_cons_self, List.mem_cons_self⟩
        · obtain ⟨piece, cut, inside⟩ := hypothesis later
          rw [shape] at cut
          rcases List.mem_cons.mp cut with rfl | behind
          · exact ⟨_, List.mem_cons_self, List.mem_cons_of_mem _ inside⟩
          · exact ⟨piece, List.mem_cons_of_mem _ behind, inside⟩

/-- A label in ASCII keeps blanks and controls. -/
theorem mem_asciiLabel {label : List Char} {c : Char} (outer : isOuter c = true)
    (present : c ∈ label) : c ∈ asciiLabel label := by
  have low : c.toNat ≤ 32 := of_decide_eq_true outer
  have plain : c ∈ label.filter fun c => c.toNat < 128 :=
    List.mem_filter.mpr ⟨present, decide_eq_true (by omega)⟩
  rw [asciiLabel]
  split
  · exact present
  · simp [plain]

/-- A domain name in ASCII keeps blanks and controls. -/
theorem mem_asciiName {name : String} {c : Char} (outer : isOuter c = true)
    (present : c ∈ name.toList) : c ∈ Host.asciiName name := by
  have folded : c ∈ (Text.fold name).toList := by
    rw [Text.fold, String.toList_ofList]
    exact List.mem_map.mpr ⟨c, present, toLower_of_isOuter outer⟩
  have noPoint : c ≠ '.' := ne_of_isOuter outer rfl
  obtain ⟨label, cut, inside⟩ := exists_mem_pieces folded noPoint
  exact mem_intercalate (mem_asciiLabel outer inside) (List.mem_map_of_mem cut)

/-- No host ends in a blank or control. -/
theorem ofWeb_of_outer {chars : List Char} {c : Char} (outer : isOuter c = true) (host : Host) :
    Host.ofWeb (chars ++ [c]) ≠ .ok host := by
  intro named
  rw [Host.ofWeb.eq_def] at named
  split at named
  · rename_i empty
    simp at empty
  · rename_i inner bracketed
    have last : inner.getLast? = some c := by
      cases chars with
      | nil =>
        obtain ⟨rfl, -⟩ := List.cons.inj bracketed
        cases outer
      | cons first rest =>
        obtain ⟨-, rfl⟩ := List.cons.inj bracketed
        exact List.getLast?_concat
    rw [Host.bracketed, last] at named
    simp [ne_of_isOuter outer (rfl : isOuter ']' = false)] at named
  · split at named
    · cases named
    · rename_i name read
      have byte := mem_decodeBytes outer (List.getLast?_concat : (chars ++ [c]).getLast? = some c)
      have low : c.toNat ≤ 32 := of_decide_eq_true outer
      have value : (UInt8.ofNat c.toNat).toNat ≤ 0x20 := by
        rw [UInt8.toNat_ofNat']
        omega
      obtain ⟨blank, inside, also⟩ := exists_outer_of_fromUTF8? read byte value
      have kept := mem_asciiName also inside
      have control : blank.toNat < 32 ∨ Host.forbidden.contains blank = true := by
        have code : blank.toNat ≤ 32 := of_decide_eq_true also
        rcases Nat.lt_or_eq_of_le code with under | space
        · exact Or.inl under
        · have same : blank = ' ' := Char.ext (UInt32.toNat_inj.mp space)
          exact Or.inr (by rw [same]; rfl)
      have refused : ((Host.asciiName name).any fun c =>
          c.toNat < 32 || c.toNat = 127 || Host.forbidden.contains c) = true := by
        refine List.any_eq_true.mpr ⟨blank, kept, ?_⟩
        rcases control with under | held
        · simp [under]
        · rw [held, Bool.or_true]
      simp only [refused, ↓reduceIte] at named
      cases named

/-- Behind the last sign of a user the text goes on to its end. -/
theorem exists_splitUser (chars : List Char) {c : Char} (other : c ≠ '@') :
    ∃ place, (splitUser (chars ++ [c])).2 = place ++ [c] := by
  simp only [splitUser]
  split
  · exact ⟨chars, rfl⟩
  · refine ⟨(chars.reverse.takeWhile (· ≠ '@')).reverse, ?_⟩
    rw [List.reverse_append, List.reverse_singleton, List.singleton_append,
      List.takeWhile_cons_of_pos (by simpa using other), List.reverse_cons]

/-- The last character belongs to the host or to the port. -/
theorem splitPort_concat (chars : List Char) {c : Char} (other : c ≠ ':') (inBrackets : Bool) :
    (∃ name, splitPort inBrackets (chars ++ [c]) = (name ++ [c], none)) ∨
      ∃ name digits, splitPort inBrackets (chars ++ [c]) = (name, some (digits ++ [c])) := by
  induction chars generalizing inBrackets with
  | nil => exact Or.inl ⟨[], by simp [splitPort, other]⟩
  | cons first chars hypothesis =>
    rw [List.cons_append, splitPort]
    split
    · exact Or.inr ⟨[], chars, rfl⟩
    · rcases hypothesis (first = '[' || (inBrackets && first ≠ ']')) with ⟨name, split⟩ |
        ⟨name, digits, split⟩
      · exact Or.inl ⟨first :: name, by rw [split]; rfl⟩
      · exact Or.inr ⟨first :: name, digits, by rw [split]⟩

/-- No port ends in a blank or control. -/
theorem portOf_of_outer {digits : List Char} {c : Char} (outer : isOuter c = true)
    (scheme : String) (port : Option Nat) : portOf scheme (digits ++ [c]) ≠ .ok port := by
  have digit : c.isDigit = false := by
    have plain := isAlphanum_of_isOuter outer
    rw [Char.isAlphanum, Bool.or_eq_false_iff] at plain
    exact plain.2
  have unread : Text.readBelow UInt16.size (digits ++ [c]) = none := by
    simp [Text.readBelow, digit]
  simp [portOf, unread]

/-- An authority that makes an origin ends in neither blank nor control, and it is not empty. -/
theorem MakeOrigin.exists_last {scheme : String} {authority : List Char}
    {origin : String × Option Host × Option Nat} (made : MakeOrigin scheme authority origin) :
    ∃ front c, authority = front ++ [c] ∧ isOuter c = false := by
  obtain ⟨host, port, named, placed, -⟩ := made
  rcases List.eq_nil_or_concat' authority with rfl | ⟨front, c, rfl⟩
  · cases named
  · refine ⟨front, c, rfl, Bool.eq_false_iff.mpr fun outer => ?_⟩
    obtain ⟨place, user⟩ := exists_splitUser front (ne_of_isOuter outer rfl : c ≠ '@')
    rw [user] at named placed
    rcases splitPort_concat place (ne_of_isOuter outer rfl : c ≠ ':') false with
      ⟨name, split⟩ | ⟨name, digits, split⟩
    · rw [split] at named
      exact ofWeb_of_outer outer host named
    · rw [split] at placed
      exact portOf_of_outer outer scheme port placed

/-! ## Texts that go on -/

/-- A text begins with a character that ends an authority, or is empty. -/
def Opens (chars : List Char) : Prop := ∀ c ∈ chars.head?, endsAuthority c = true

/-- A character of the name of a scheme. -/
def isSchemeChar (c : Char) : Bool := c.isAlphanum || ['+', '-', '.'].contains c

/-- A text is cut at the first of a character. -/
theorem splitAt_append {c : Char} {front rest : List Char} (absent : c ∉ front) :
    splitAt c (front ++ c :: rest) = (front, some rest) := by
  have others : ∀ other ∈ front, decide (other ≠ c) = true := by
    intro other present
    exact decide_eq_true fun same => absent (same ▸ present)
  rw [splitAt, List.dropWhile_append_of_pos others, List.takeWhile_append_of_pos others]
  simp

/-- A text that is cut at a character is put together of what stands before and after it. -/
theorem eq_append_of_splitAt {c : Char} {chars front rest : List Char}
    (cut : splitAt c chars = (front, some rest)) : chars = front ++ c :: rest := by
  rw [splitAt] at cut
  split at cut
  · cases cut
  · rename_i first after begun
    obtain ⟨rfl, same⟩ := Prod.mk.inj cut
    cases same
    have mark : first = c := by
      have stops := List.head?_dropWhile_not (fun other => decide (other ≠ c)) chars
      rw [begun] at stops
      simpa using stops
    calc chars = chars.takeWhile (· ≠ c) ++ chars.dropWhile (· ≠ c) :=
          List.takeWhile_append_dropWhile.symm
      _ = chars.takeWhile (· ≠ c) ++ c :: rest := by rw [begun, mark]

/-- A text begins with a scheme when there is a name of letters, digits and some marks, beginning
with a letter, in front of a colon. -/
theorem scheme?_eq_some_iff {chars rest : List Char} {scheme : String} :
    scheme? chars = some (scheme, rest) ↔ ∃ first name, chars = first :: name ++ ':' :: rest ∧
      first.isAlpha = true ∧ (∀ c ∈ name, isSchemeChar c = true) ∧
        scheme = Text.fold (String.ofList (first :: name)) := by
  constructor
  · intro begins
    rw [scheme?] at begins
    split at begins
    · rename_i first name after cut
      have marks : (name.all fun c => c.isAlphanum || ['+', '-', '.'].contains c) =
          name.all isSchemeChar := rfl
      simp only [marks] at begins
      split at begins
      · rename_i valid
        cases begins
        obtain ⟨letter, all⟩ := Bool.and_eq_true_iff.mp valid
        exact ⟨first, name, eq_append_of_splitAt cut, letter, List.all_eq_true.mp all, rfl⟩
      · cases begins
    · cases begins
  · rintro ⟨first, name, rfl, letter, marks, rfl⟩
    have absent : ':' ∉ first :: name := by
      intro present
      rcases List.mem_cons.mp present with rfl | later
      · cases letter
      · cases marks ':' later
    have all : (name.all fun c => c.isAlphanum || ['+', '-', '.'].contains c) = true :=
      List.all_eq_true.mpr marks
    rw [scheme?, splitAt_append absent]
    simp only [letter, all, Bool.and_self, ↓reduceIte]

/-- When a text begins with a scheme and goes on with no character of one, it began with the scheme
before. -/
theorem exists_scheme?_of_append {front back rest : List Char} {scheme : String}
    (begins : scheme? (front ++ back) = some (scheme, rest))
    (other : ∀ c ∈ back.head?, isSchemeChar c = false ∧ c ≠ ':') :
    ∃ between, scheme? front = some (scheme, between) ∧ rest = between ++ back := by
  obtain ⟨first, name, whole, letter, marks, rfl⟩ := scheme?_eq_some_iff.mp begins
  have inner : ∀ c ∈ first :: name, isSchemeChar c = true := by
    intro c present
    rcases List.mem_cons.mp present with rfl | later
    · simp [isSchemeChar, Char.isAlphanum, letter]
    · exact marks c later
  rcases List.append_eq_append_iff.mp whole with ⟨more, name', tail⟩ | ⟨between, rfl, tail⟩
  · -- The name of the scheme would go on in the second text.
    exfalso
    cases more with
    | nil =>
      rw [List.nil_append] at tail
      exact (other ':' (by rw [tail]; rfl)).2 rfl
    | cons c more =>
      have mark := inner c (by rw [name']; simp)
      rw [(other c (by rw [tail]; rfl)).1] at mark
      cases mark
  · cases between with
    | nil =>
      rw [List.nil_append] at tail
      exact absurd rfl (other ':' (by rw [← tail]; rfl)).2
    | cons c between =>
      obtain ⟨rfl, rfl⟩ := List.cons.inj tail
      exact ⟨between, scheme?_eq_some_iff.mpr ⟨first, name, rfl, letter, marks, rfl⟩, rfl⟩

/-- Before a character that is no blank nothing is passed over from the end. -/
theorem rdropWhile_append_cons {passes : Char → Bool} {c : Char} (visible : passes c = false)
    (front rest : List Char) :
    (front ++ c :: rest).rdropWhile passes = front ++ c :: rest.rdropWhile passes := by
  have stays : passes c ≠ true := by simp [visible]
  rw [List.rdropWhile, List.rdropWhile, List.reverse_append, List.reverse_cons, List.append_assoc,
    List.singleton_append, List.dropWhile_append]
  split
  · rename_i none
    rw [List.isEmpty_iff.mp none, List.dropWhile_cons_of_neg stays]
    simp
  · simp

/-- Characters that count wherever they stand: all but tabs and line ends. -/
def isKept (c : Char) : Bool := c ≠ '\t' && c ≠ '\n' && c ≠ '\r'

/-- What counts of a text. -/
theorem significant_eq (chars : List Char) :
    significant chars = ((chars.dropWhile isOuter).rdropWhile isOuter).filter isKept := rfl

/-- A character that ends an authority counts. -/
theorem isOuter_of_endsAuthority {c : Char} (ends : endsAuthority c = true) :
    isOuter c = false ∧ isKept c = true := by
  rcases endsAuthority_iff.mp ends with rfl | rfl | rfl | rfl <;> decide

/-- What counts of two texts one after the other, when the second opens: what counts of the first,
the blanks at its end, and what counts of the second. -/
theorem exists_significant_append (front : List Char) {back : List Char} (opens : Opens back) :
    ∃ blanks more, significant (front ++ back) = significant front ++ (blanks ++ more) ∧
      (∀ c ∈ blanks, isOuter c = true) ∧ Opens more ∧ ∀ c ∈ more, c ∈ back := by
  cases back with
  | nil =>
    refine ⟨[], [], ?_, fun _ none => absurd none List.not_mem_nil, ?_, fun _ => id⟩
    · rw [List.append_nil, List.append_nil, List.append_nil]
    · intro c none
      cases none
  | cons c rest =>
    have ends : endsAuthority c = true := opens c rfl
    obtain ⟨visible, counts⟩ := isOuter_of_endsAuthority ends
    have begun : (front ++ c :: rest).dropWhile isOuter = front.dropWhile isOuter ++ c :: rest := by
      rw [List.dropWhile_append]
      split
      · rename_i none
        rw [List.isEmpty_iff.mp none, List.dropWhile_cons_of_neg (by simp [visible])]
        rfl
      · rfl
    refine ⟨((front.dropWhile isOuter).rtakeWhile isOuter).filter isKept,
      c :: (rest.rdropWhile isOuter).filter isKept, ?_, ?_, ?_, ?_⟩
    · have cut : ((front.dropWhile isOuter).rdropWhile isOuter).filter isKept ++
          ((front.dropWhile isOuter).rtakeWhile isOuter).filter isKept =
            (front.dropWhile isOuter).filter isKept := by
        rw [← List.filter_append, List.rdropWhile_append_rtakeWhile]
      rw [significant_eq, significant_eq, begun, rdropWhile_append_cons visible,
        List.filter_append, List.filter_cons_of_pos counts, ← cut, List.append_assoc]
    · intro other present
      exact List.mem_rtakeWhile_imp (List.mem_filter.mp present).1
    · intro other first
      rw [List.head?_cons, Option.mem_some_iff] at first
      exact first ▸ ends
    · intro other present
      rcases List.mem_cons.mp present with rfl | later
      · exact List.mem_cons_self
      · exact List.mem_cons_of_mem c
          ((List.rdropWhile_prefix isOuter rest).subset (List.mem_filter.mp later).1)

/-- An authority that is followed by blanks and a text that opens is followed by the blanks or has
ended before. -/
theorem authority_append {between blanks more : List Char}
    (begun : between.dropWhile (isSlash true) ≠ []) (outer : ∀ c ∈ blanks, isOuter c = true)
    (opens : Opens more) : authority (between ++ (blanks ++ more)) = authority between ∨
      authority (between ++ (blanks ++ more)) = authority between ++ blanks := by
  have stopped : more.takeWhile (fun c => !endsAuthority c) = [] := by
    cases more with
    | nil => rfl
    | cons c more => rw [List.takeWhile_cons_of_neg (by simp [opens c rfl])]
  have passed : ∀ c ∈ blanks, (!endsAuthority c) = true := by
    intro c present
    have visible : ∀ mark : Char, isOuter mark = false → c ≠ mark := fun mark =>
      ne_of_isOuter (outer c present)
    simp [endsAuthority, isSlash, visible '/' rfl, visible '\\' rfl, visible '?' rfl,
      visible '#' rfl]
  have some : (between.dropWhile (isSlash true)).isEmpty = false := by simpa using begun
  simp only [authority, List.dropWhile_append, some, Bool.false_eq_true, ↓reduceIte]
  rw [List.takeWhile_append, List.takeWhile_append_of_pos passed, stopped, List.append_nil]
  split
  · rename_i whole
    have all : (between.dropWhile (isSlash true)).takeWhile (fun c => !endsAuthority c) =
        between.dropWhile (isSlash true) :=
      List.Sublist.eq_of_length (List.takeWhile_sublist _) whole
    exact Or.inr (by rw [all])
  · exact Or.inl rfl

/-- A text that begins with a scheme begins with it whatever is written after it. -/
theorem scheme?_append {front between : List Char} {scheme : String}
    (begins : scheme? front = some (scheme, between)) (back : List Char) :
    scheme? (front ++ back) = some (scheme, between ++ back) := by
  obtain ⟨first, name, rfl, letter, marks, rfl⟩ := scheme?_eq_some_iff.mp begins
  refine scheme?_eq_some_iff.mpr ⟨first, name, ?_, letter, marks, rfl⟩
  rw [List.append_assoc]
  rfl

/-- Neither blanks nor a text that opens begin with a character of a scheme. -/
theorem not_isSchemeChar_of_opens {blanks more : List Char} (outer : ∀ c ∈ blanks, isOuter c = true)
    (opens : Opens more) : ∀ c ∈ (blanks ++ more).head?, isSchemeChar c = false ∧ c ≠ ':' := by
  intro c first
  cases blanks with
  | nil =>
    rcases endsAuthority_iff.mp (opens c first) with rfl | rfl | rfl | rfl <;> decide
  | cons blank blanks =>
    have same : blank = c := by simpa using first
    have blankIs : isOuter c = true := same ▸ outer blank List.mem_cons_self
    have visible : ∀ mark : Char, isOuter mark = false → c ≠ mark := fun mark =>
      ne_of_isOuter blankIs
    refine ⟨?_, visible ':' rfl⟩
    simp [isSchemeChar, isAlphanum_of_isOuter blankIs, visible '+' rfl, visible '-' rfl,
      visible '.' rfl]

/-- Blanks and a text that opens change nothing about an origin that an authority in front of them
makes. -/
theorem MakeOrigin.of_append {between blanks more : List Char} {scheme : String}
    {origin : String × Option Host × Option Nat}
    (made : MakeOrigin scheme (authority (between ++ (blanks ++ more))) origin)
    (begun : between.dropWhile (isSlash true) ≠ []) (outer : ∀ c ∈ blanks, isOuter c = true)
    (opens : Opens more) : MakeOrigin scheme (authority between) origin := by
  rcases authority_append begun outer opens with same | followed
  · rwa [same] at made
  · rw [followed] at made
    obtain ⟨front, c, last, visible⟩ := made.exists_last
    rcases List.eq_nil_or_concat' blanks with rfl | ⟨others, blank, rfl⟩
    · rwa [List.append_nil] at made
    · rw [← List.append_assoc] at last
      obtain ⟨-, same⟩ := List.append_inj' last rfl
      obtain rfl : blank = c := by simpa using same
      rw [outer blank (by simp)] at visible
      cases visible

/-- Slashes after a scheme that nothing but blanks and slashes follow make no origin. -/
theorem MakeOrigin.begun {between blanks more : List Char} {scheme : String}
    {origin : String × Option Host × Option Nat}
    (made : MakeOrigin scheme (authority (between ++ (blanks ++ more))) origin)
    (outer : ∀ c ∈ blanks, isOuter c = true) (slashes : ∀ c ∈ more, isSlash true c = true) :
    between.dropWhile (isSlash true) ≠ [] := by
  intro none
  obtain ⟨front, c, last, visible⟩ := made.exists_last
  have inside : c ∈ authority (between ++ (blanks ++ more)) := by simp [last]
  rw [authority, List.dropWhile_append, none] at inside
  have goesOn := List.mem_takeWhile_imp inside
  have present := ((List.takeWhile_sublist _).trans (List.dropWhile_sublist _)).subset inside
  rcases List.mem_append.mp present with blank | slash
  · rw [outer c blank] at visible
    cases visible
  · rw [endsAuthority, slashes c slash] at goesOn
    cases goesOn

/-- What is written after an address of the web without the slashes at its end changes nothing
about its origin when it begins with a character that ends an authority. -/
theorem origin_eq_of_opens {front slashes back : String} {base url : Url}
    (all : ∀ c ∈ slashes.toList, c = '/') (denotes : parse (front ++ slashes) = .ok base)
    (web : isWeb base.scheme = true) (opens : Opens back.toList)
    (parsed : parse (front ++ back) = .ok url) : url.origin = base.origin := by
  have slashed : Opens slashes.toList := by
    intro c first
    rw [all c (List.mem_of_mem_head? first)]
    rfl
  obtain ⟨rest, begins⟩ := exists_scheme_of_parse denotes
  have made := makeOrigin_of_parse denotes begins web
  obtain ⟨blanks, more, whole, outer, opening, inside⟩ :=
    exists_significant_append front.toList slashed
  rw [String.toList_append, whole] at begins
  obtain ⟨between, scheme, rfl⟩ :=
    exists_scheme?_of_append begins (not_isSchemeChar_of_opens outer opening)
  have begun := made.begun outer fun c present => by
    rw [all c (inside c present)]
    rfl
  obtain ⟨others, further, whole, outer', opening', -⟩ :=
    exists_significant_append front.toList opens
  have again := scheme?_append scheme (others ++ further)
  rw [← whole, ← String.toList_append] at again
  have also := makeOrigin_of_parse parsed again web
  exact (also.of_append begun outer' opening').unique (made.of_append begun outer opening)

end OffHours.Url
