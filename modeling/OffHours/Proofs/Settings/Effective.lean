import Mathlib.Logic.ExistsUnique
import OffHours.Proofs.Program.Readiness

/-!
# The settings in effect

Two variables of the environment go before the file with settings, and what they leave is
checked after them. `Settings.Effective` says what the file and the environment come to without
a word on how it is found: the two settings that can be overridden, each told from its variable,
and everything else as in the file. `Settings.Usable` lists what settings need. The theorem
`Settings.loads_effective_settings` says that a file is loaded exactly when the word for
simulations can be used and the settings in effect are usable, and that these are then loaded.
So a blank subscription in the file does no harm when the environment has one, and a word that
cannot be used hides whatever is wrong with the file.
-/

namespace OffHours

namespace Text

variable {text inner : String}

/-- There is more than blanks in a text. -/
def Inked (text : String) : Prop := ∃ c ∈ text.toList, isBlank c = false

/-- A text consists of blanks or there is more in it. -/
theorem allBlank_eq_false_iff : allBlank text = false ↔ Inked text := by
  rw [allBlank, List.all_eq_false]
  simp only [Bool.not_eq_true, Inked]

/-- A text is another one with blanks around it, and neither begins nor ends with one itself. -/
structure Trims (text inner : String) : Prop where
  /-- Blanks stand around the text. -/
  around : ∃ lead trail, text.toList = lead ++ inner.toList ++ trail ∧
    (∀ c ∈ lead, isBlank c = true) ∧ ∀ c ∈ trail, isBlank c = true
  /-- The first character is not blank. -/
  front : ∀ c ∈ inner.toList.head?, isBlank c = false
  /-- The last character is not blank. -/
  back : ∀ c ∈ inner.toList.getLast?, isBlank c = false

/-- Trimming finds the text without the blanks around it, and there is no other one. -/
theorem trims_iff : Trims text inner ↔ trim text = inner := by
  constructor
  · rintro ⟨⟨lead, trail, shape, before, after⟩, front, back⟩
    rw [trim, shape, trimChars_between before after front back, String.ofList_toList]
  · rintro rfl
    have chars : (trim text).toList = trimChars text.toList := String.toList_ofList
    refine ⟨?_, fun c first => ?_, fun c last => ?_⟩
    · rw [chars]
      exact exists_around_trimChars text.toList
    · rw [chars] at first
      exact front_trimChars first
    · rw [chars] at last
      exact back_trimChars last

end Text

/-- The words for a truth value. -/
def wordsFor : Bool → List String
  | true => ["1", "true", "yes", "on"]
  | false => ["0", "false", "no", "off", ""]

/-- A text is a word for a truth value, in any case and with blanks around it. -/
def Means (text : String) (value : Bool) : Prop :=
  ∃ word, Text.Trims text word ∧ Text.fold word ∈ wordsFor value

/-- No word is for both truth values. -/
theorem not_mem_wordsFor {word : String} (also : word ∈ wordsFor false) :
    word ∉ wordsFor true := by
  revert word
  decide

/-- A truth value is read exactly from the words for it. -/
theorem truthOf?_eq_some_iff {text : String} {value : Bool} :
    truthOf? text = some value ↔ Means text value := by
  have means : Means text value ↔ Text.fold (Text.trim text) ∈ wordsFor value := by
    simp only [Means, Text.trims_iff, exists_eq_left']
  rw [means, truthOf?]
  generalize Text.fold (Text.trim text) = word
  have yes : ["1", "true", "yes", "on"].contains word = true ↔ word ∈ wordsFor true :=
    List.contains_iff_mem
  have no : ["0", "false", "no", "off", ""].contains word = true ↔ word ∈ wordsFor false :=
    List.contains_iff_mem
  simp only [yes, no]
  cases value with
  | true =>
    split
    · simp [*]
    · split <;> simp [*]
  | false =>
    split
    · rename_i on
      have off : word ∉ wordsFor false := fun also => not_mem_wordsFor also on
      simp [off]
    · split <;> simp [*]

/-- A text has no truth value exactly when it is no word for one. -/
theorem truthOf?_eq_none_iff {text : String} :
    truthOf? text = none ↔ ∀ value, ¬ Means text value := by
  simp only [← truthOf?_eq_some_iff]
  exact Option.eq_none_iff_forall_ne_some

namespace Settings

variable {environment : Environment} {file settings other loaded : Settings}

/-! ## What settings need -/

/-- What settings need to be used. -/
structure Usable (settings : Settings) : Prop where
  /-- There is a subscription. -/
  subscription : Text.Inked settings.subscription
  /-- There is a key of the schedule tag. -/
  tagName : Text.Inked settings.tagName
  /-- The management interface is on the web. -/
  endpoint : ∃ rest, settings.endpoint = "http://" ++ rest ∨ settings.endpoint = "https://" ++ rest
  /-- A request has some time. -/
  requestSeconds : settings.requestSeconds ≠ 0
  /-- A run has some time. -/
  runSeconds : settings.runSeconds ≠ 0
  /-- Some machine can be in progress. -/
  width : settings.width ≠ 0
  /-- Mail goes to somebody. -/
  mail : ∀ mail, settings.notices.mail = some mail → mail.recipients ≠ []

/-- An address of the web begins like one. -/
theorem isWebAddress_iff {address : String} :
    isWebAddress address = true ↔
      ∃ rest, address = "http://" ++ rest ∨ address = "https://" ++ rest := by
  rw [isWebAddress, Bool.or_eq_true, Text.isPrefixOf_iff, Text.isPrefixOf_iff, exists_or]

/-- No number that must not be zero is zero. -/
theorem find_positives_eq_none_iff :
    (settings.positives.find? fun entry => entry.2 = 0) = none ↔
      settings.requestSeconds ≠ 0 ∧ settings.runSeconds ≠ 0 ∧ settings.width ≠ 0 := by
  rw [List.find?_eq_none]
  simp [positives]

/-- Mail goes to somebody when it is asked for. -/
theorem mailLacksRecipients_eq_false_iff :
    settings.mailLacksRecipients = false ↔
      ∀ mail, settings.notices.mail = some mail → mail.recipients ≠ [] := by
  rw [mailLacksRecipients]
  cases settings.notices.mail with
  | none => simp
  | some mail => simp [List.isEmpty_eq_false_iff]

/-- A check finds nothing when its condition does not hold and the checks after it find
nothing. -/
theorem ite_some_eq_none_iff {condition : Bool} {fault : SettingsFault}
    {later : Option SettingsFault} :
    (if condition then some fault else later) = none ↔ condition = false ∧ later = none := by
  cases condition <;> simp

/-- Settings have no fault exactly when they can be used. -/
theorem fault?_eq_none_iff : settings.fault? = none ↔ Usable settings := by
  rw [fault?, ite_some_eq_none_iff, ite_some_eq_none_iff, ite_some_eq_none_iff,
    Bool.not_eq_false', Text.allBlank_eq_false_iff, Text.allBlank_eq_false_iff, isWebAddress_iff]
  cases zero : settings.positives.find? fun entry => entry.2 = 0 with
  | some entry =>
    refine ⟨fun none => (by cases none.2.2.2), fun usable => ?_⟩
    have nonzero := find_positives_eq_none_iff.mpr
      ⟨usable.requestSeconds, usable.runSeconds, usable.width⟩
    rw [zero] at nonzero
    cases nonzero
  | none =>
    obtain ⟨request, run, width⟩ := find_positives_eq_none_iff.mp zero
    simp only [ite_some_eq_none_iff, mailLacksRecipients_eq_false_iff, and_true]
    constructor
    · rintro ⟨subscription, tagName, endpoint, mail⟩
      exact ⟨subscription, tagName, endpoint, request, run, width, mail⟩
    · intro usable
      exact ⟨usable.subscription, usable.tagName, usable.endpoint, usable.mail⟩

/-! ## What a file and an environment come to -/

/-- The word for simulations can be used, if there is one. -/
def Switchable (environment : Environment) : Prop :=
  ∀ text, environment "AUTOSHUTDOWN_SIMULATE" = some text → ∃ value, Means text value

/-- The subscription that an environment and the one of a file come to. -/
structure SubscriptionInEffect (environment : Environment) (filed subscription : String) :
    Prop where
  /-- One of the environment with more than blanks in it goes before that of the file, without the
  blanks around it. -/
  given : ∀ text, environment "AUTOSHUTDOWN_SUBSCRIPTION_ID" = some text → Text.Inked text →
    Text.Trims text subscription
  /-- Without one it is that of the file. -/
  kept : (∀ text, environment "AUTOSHUTDOWN_SUBSCRIPTION_ID" = some text → ¬ Text.Inked text) →
    subscription = filed

/-- Whether actions are only reported, as told by an environment and a file. -/
structure SimulateInEffect (environment : Environment) (filed simulate : Bool) : Prop where
  /-- A word of the environment for a truth value tells it. -/
  given : ∀ text value, environment "AUTOSHUTDOWN_SIMULATE" = some text → Means text value →
    simulate = value
  /-- Without a word the file tells it. -/
  kept : environment "AUTOSHUTDOWN_SIMULATE" = none → simulate = filed

/-- What the settings of a file and the overrides of an environment come to. -/
structure Effective (environment : Environment) (file settings : Settings) : Prop where
  /-- The subscription is the one in effect. -/
  subscription : SubscriptionInEffect environment file.subscription settings.subscription
  /-- Whether actions are only reported is told by both. -/
  simulate : SimulateInEffect environment file.simulate settings.simulate
  /-- Everything else is as in the file. -/
  rest : settings =
    { file with subscription := settings.subscription, simulate := settings.simulate }

/-- There is one subscription in effect. -/
theorem SubscriptionInEffect.unique {filed one two : String}
    (first : SubscriptionInEffect environment filed one)
    (second : SubscriptionInEffect environment filed two) : one = two := by
  by_cases inked : ∃ text, environment "AUTOSHUTDOWN_SUBSCRIPTION_ID" = some text ∧ Text.Inked text
  · obtain ⟨text, set, inked⟩ := inked
    have trimmed := Text.trims_iff.mp (first.given text set inked)
    exact trimmed.symm.trans (Text.trims_iff.mp (second.given text set inked))
  · have blank : ∀ text, environment "AUTOSHUTDOWN_SUBSCRIPTION_ID" = some text →
        ¬ Text.Inked text := fun text set some => inked ⟨text, set, some⟩
    exact (first.kept blank).trans (second.kept blank).symm

/-- It is told in one way whether actions are only reported, when the word can be used. -/
theorem SimulateInEffect.unique {filed one two : Bool} (switchable : Switchable environment)
    (first : SimulateInEffect environment filed one)
    (second : SimulateInEffect environment filed two) : one = two := by
  cases set : environment "AUTOSHUTDOWN_SIMULATE" with
  | none => exact (first.kept set).trans (second.kept set).symm
  | some text =>
    obtain ⟨value, means⟩ := switchable text set
    exact (first.given text value set means).trans (second.given text value set means).symm

/-- There are no two settings in effect when the word can be used. -/
theorem Effective.unique (switchable : Switchable environment)
    (first : Effective environment file settings) (second : Effective environment file other) :
    other = settings := by
  rw [first.rest, second.rest, first.subscription.unique second.subscription,
    first.simulate.unique switchable second.simulate]

/-! ## What the overrides make -/

/-- A variable is filled when it is set and there is more than blanks in it. -/
theorem filled?_eq_some_iff {name text : String} :
    environment.filled? name = some text ↔ environment name = some text ∧ Text.Inked text := by
  rw [Environment.filled?, Option.filter_eq_some_iff, Bool.not_eq_true',
    Text.allBlank_eq_false_iff]

/-- A filled variable overrides the subscription. -/
theorem overrideSubscription_of_inked {text : String}
    (set : environment "AUTOSHUTDOWN_SUBSCRIPTION_ID" = some text) (inked : Text.Inked text) :
    (file.overrideSubscription environment).1 = { file with subscription := Text.trim text } := by
  have filled : environment.filled? Environment.subscription = some text :=
    filled?_eq_some_iff.mpr ⟨set, inked⟩
  rw [overrideSubscription, filled]

/-- Without a filled variable nothing is overridden. -/
theorem overrideSubscription_of_blank
    (blank : ∀ text, environment "AUTOSHUTDOWN_SUBSCRIPTION_ID" = some text → ¬ Text.Inked text) :
    (file.overrideSubscription environment).1 = file := by
  have none : environment.filled? Environment.subscription = none :=
    Option.eq_none_iff_forall_ne_some.mpr fun text filled =>
      blank text (filled?_eq_some_iff.mp filled).1 (filled?_eq_some_iff.mp filled).2
  rw [overrideSubscription, none]

/-- Overriding the subscription makes the one in effect and leaves everything else. -/
theorem overrideSubscription_effective (environment : Environment) (file : Settings) :
    ∃ subscription, (file.overrideSubscription environment).1 = { file with subscription } ∧
      SubscriptionInEffect environment file.subscription subscription := by
  by_cases filled : ∃ text, environment "AUTOSHUTDOWN_SUBSCRIPTION_ID" = some text ∧
      Text.Inked text
  · obtain ⟨text, set, inked⟩ := filled
    refine ⟨Text.trim text, overrideSubscription_of_inked set inked, fun also same _ => ?_,
      fun none => absurd inked (none text set)⟩
    obtain rfl := Option.some.inj (set.symm.trans same)
    exact Text.trims_iff.mpr rfl
  · have blank : ∀ text, environment "AUTOSHUTDOWN_SUBSCRIPTION_ID" = some text →
        ¬ Text.Inked text := fun text set inked => filled ⟨text, set, inked⟩
    exact ⟨file.subscription, overrideSubscription_of_blank blank,
      fun text set inked => absurd inked (blank text set), fun _ => rfl⟩

/-- Without a word for simulations nothing is overridden. -/
theorem overrideSimulate_of_unset (unset : environment "AUTOSHUTDOWN_SIMULATE" = none) :
    file.overrideSimulate environment = { settings := file } := by
  rw [overrideSimulate, Environment.simulate, unset]

/-- A word for a truth value overrides whether actions are only reported. -/
theorem overrideSimulate_of_means {text : String} {value : Bool} (file : Settings)
    (set : environment "AUTOSHUTDOWN_SIMULATE" = some text) (means : Means text value) :
    (file.overrideSimulate environment).fault = none ∧
      (file.overrideSimulate environment).settings = { file with simulate := value } := by
  have truth : truthOf? text = some value := truthOf?_eq_some_iff.mpr means
  simp [overrideSimulate, Environment.simulate, set, truth]

/-- A word that cannot be used is a fault. -/
theorem overrideSimulate_of_meaningless {text : String}
    (set : environment "AUTOSHUTDOWN_SIMULATE" = some text)
    (meaningless : ∀ value, ¬ Means text value) :
    (file.overrideSimulate environment).fault =
      some (.invalid "AUTOSHUTDOWN_SIMULATE" ("'" ++ text ++ "' is not a boolean")) := by
  have truth : truthOf? text = none := truthOf?_eq_none_iff.mpr meaningless
  simp [overrideSimulate, Environment.simulate, set, truth]

/-- A fault of the overrides comes from the word for simulations. -/
theorem override_fault (environment : Environment) (file : Settings) :
    (file.override environment).fault =
      ((file.overrideSubscription environment).1.overrideSimulate environment).fault := by
  rw [override]

/-- The word for simulations is taken in after the subscription. -/
theorem override_settings (environment : Environment) (file : Settings) :
    (file.override environment).settings =
      ((file.overrideSubscription environment).1.overrideSimulate environment).settings := by
  rw [override]

/-- The overrides come to the settings in effect when the word can be used. -/
theorem override_effective (file : Settings) (switchable : Switchable environment) :
    (file.override environment).fault = none ∧
      Effective environment file (file.override environment).settings := by
  obtain ⟨subscription, first, inEffect⟩ := overrideSubscription_effective environment file
  rw [override_fault, override_settings, first]
  cases set : environment "AUTOSHUTDOWN_SIMULATE" with
  | none =>
    rw [overrideSimulate_of_unset set]
    refine ⟨rfl, inEffect, ⟨fun text value some => ?_, fun _ => rfl⟩, rfl⟩
    rw [set] at some
    cases some
  | some text =>
    obtain ⟨value, means⟩ := switchable text set
    obtain ⟨clean, made⟩ := overrideSimulate_of_means { file with subscription } set means
    rw [made]
    refine ⟨clean, inEffect, ⟨fun also other same otherwise => ?_, fun none => ?_⟩, rfl⟩
    · obtain rfl := Option.some.inj (set.symm.trans same)
      have one := truthOf?_eq_some_iff.mpr means
      have two := truthOf?_eq_some_iff.mpr otherwise
      exact Option.some.inj (one.symm.trans two)
    · rw [set] at none
      cases none

/-- The overrides leave no fault exactly when the word can be used. -/
theorem override_fault_eq_none_iff :
    (file.override environment).fault = none ↔ Switchable environment := by
  constructor
  · intro clean text set
    by_contra none
    have meaningless : ∀ value, ¬ Means text value := fun value means => none ⟨value, means⟩
    obtain ⟨fault, faulty⟩ := (override_fault_iff file).mpr
      ⟨text, set, truthOf?_eq_none_iff.mpr meaningless⟩
    rw [clean] at faulty
    cases faulty
  · exact fun switchable => (override_effective file switchable).1

/-! ## Loading -/

variable {path text : String}

/-- What comes of loading a file with settings, as told by the file and the environment. -/
structure LoadsEffective (environment : Environment) (file : Settings)
    (outcome : Except SettingsFault Settings) : Prop where
  /-- When the word for simulations can be used, the settings in effect are these and no others. -/
  determined : Switchable environment → ∃! settings, Effective environment file settings
  /-- Loading comes out well exactly when the word can be used and so can the settings in
  effect. -/
  succeeds : (∃ loaded, outcome = .ok loaded) ↔
    Switchable environment ∧ ∃ settings, Effective environment file settings ∧ Usable settings
  /-- The settings in effect are loaded. -/
  result : ∀ loaded, outcome = .ok loaded → Effective environment file loaded
  /-- A word that cannot be used is reported, whatever is wrong with the file. -/
  masks : ∀ text, environment "AUTOSHUTDOWN_SIMULATE" = some text →
    (∀ value, ¬ Means text value) →
    outcome = .error (.invalid "AUTOSHUTDOWN_SIMULATE" ("'" ++ text ++ "' is not a boolean"))

/-- A file is loaded exactly with the settings in effect, when the word can be used and so can
they. -/
theorem ofFile_eq_ok_effective_iff (decoded : (Toml.read? text).bind ofValue? = some file) :
    (ofFile environment path (.content text)).1 = .ok loaded ↔
      Switchable environment ∧ Effective environment file loaded ∧ Usable loaded := by
  rw [ofFile_eq_ok_iff]
  constructor
  · rintro ⟨also, read, ⟨⟩, parsed, clean, checked, rfl⟩
    obtain rfl := Option.some.inj (decoded.symm.trans parsed)
    have switchable := override_fault_eq_none_iff.mp clean
    exact ⟨switchable, (override_effective file switchable).2, fault?_eq_none_iff.mp checked⟩
  · rintro ⟨switchable, effective, usable⟩
    obtain ⟨clean, made⟩ := override_effective file switchable
    have same := Effective.unique switchable effective made
    exact ⟨text, file, rfl, decoded, clean, same ▸ fault?_eq_none_iff.mpr usable, same⟩

/-- A file with settings is refused for a word that cannot be used before anything else. -/
theorem ofFile_of_meaningless {word : String}
    (decoded : (Toml.read? text).bind ofValue? = some file)
    (set : environment "AUTOSHUTDOWN_SIMULATE" = some word)
    (meaningless : ∀ value, ¬ Means word value) :
    (ofFile environment path (.content text)).1 =
      .error (.invalid "AUTOSHUTDOWN_SIMULATE" ("'" ++ word ++ "' is not a boolean")) := by
  have faulty : (file.override environment).fault =
      some (.invalid "AUTOSHUTDOWN_SIMULATE" ("'" ++ word ++ "' is not a boolean")) := by
    rw [override_fault]
    exact overrideSimulate_of_meaningless set meaningless
  simp only [ofFile, decoded, adopt, faulty]

/-- Loading a file with settings comes to the settings in effect: those of the file, but for a
subscription and a word for simulations of the environment, and checked after these. -/
theorem loads_effective_settings (environment : Environment) (path text : String) (file : Settings)
    (decoded : (Toml.read? text).bind ofValue? = some file) :
    LoadsEffective environment file (ofFile environment path (.content text)).1 where
  determined switchable :=
    ⟨_, (override_effective file switchable).2, fun _ other =>
      Effective.unique switchable (override_effective file switchable).2 other⟩
  succeeds := by
    simp only [ofFile_eq_ok_effective_iff decoded]
    constructor
    · rintro ⟨loaded, switchable, effective, usable⟩
      exact ⟨switchable, loaded, effective, usable⟩
    · rintro ⟨switchable, loaded, effective, usable⟩
      exact ⟨loaded, switchable, effective, usable⟩
  result _ read := ((ofFile_eq_ok_effective_iff decoded).mp read).2.1
  masks _ set meaningless := ofFile_of_meaningless decoded set meaningless

/-- An environment with a subscription and a word for simulations, both with blanks around
them. -/
def nightEnvironment : Environment := fun name =>
  if name = Environment.subscription then some " night "
  else if name = Environment.simulate then some "YES "
  else none

/-- The environment makes up for a subscription that the file leaves blank. -/
theorem loads_effective_settings_night :
    (Toml.read? "subscription_id = \"\"").bind ofValue? = some (ofSubscription "") ∧
      (ofFile nightEnvironment "main.toml" (.content "subscription_id = \"\"")).1.toOption =
        some { ofSubscription "night" with simulate := true } ∧
      LoadsEffective nightEnvironment (ofSubscription "")
        (ofFile nightEnvironment "main.toml" (.content "subscription_id = \"\"")).1 := by
  have decoded : (Toml.read? "subscription_id = \"\"").bind ofValue? =
      some (ofSubscription "") := by
    decide +kernel
  exact ⟨decoded, by decide +kernel, loads_effective_settings _ _ _ _ decoded⟩

end Settings

end OffHours
