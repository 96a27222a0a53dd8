import Mathlib.Tactic.ByContra
import OffHours.Program

/-!
# When the program is ready for a run

Whether a sweep simulates is told by its arguments: `CommandLine.follow_simulate_iff`. What keeps
the program from a run is listed by `Program.Unready` without a word on the order in which it is
looked for, and `Program.prepare_refuses_iff` says that nothing else does.
-/

namespace OffHours

/-- A sequence that came out well did so in both parts. -/
theorem exists_of_bind_eq_ok {ε α β : Type} {first : Except ε α} {next : α → Except ε β} {value : β}
    (done : first >>= next = .ok value) :
    ∃ between, first = .ok between ∧ next between = .ok value := by
  cases first with
  | error fault => cases done
  | ok between => exact ⟨between, rfl, done⟩

namespace CommandLine

/-- An argument is the option for simulations exactly when it is written so. -/
theorem Argument.of_eq_simulate_iff {text : String} :
    Argument.of text = .long "simulate" none ↔ text = "--simulate" := by
  constructor
  · intro read
    unfold Argument.of at read
    split at read
    · cases read
    · rename_i rest _ dashes
      split at read
      · rename_i none
        have all := List.takeWhile_append_dropWhile (p := (· ≠ '=')) (l := rest)
        rw [none, List.append_nil] at all
        obtain ⟨name, -⟩ := Argument.long.inj read
        rw [all] at name
        have letters : rest = "simulate".toList := by rw [← name, String.toList_ofList]
        rw [← String.ofList_toList (s := text), dashes, letters]
        rfl
      · cases (Argument.long.inj read).2
    · cases read
    · cases read
  · rintro rfl
    decide +kernel

/-- Only an option with a name is found by it. -/
theorem Flag.name_of_ofName? {name : String} {flag : Flag} (found : Flag.ofName? name = some flag) :
    name = flag.name := by
  have named := List.find?_some found
  exact (of_decide_eq_true named).symm

/-- An announced directory does not bear on simulations. -/
theorem takeOver_simulate {options taken : Options} {announced : Announced}
    (read : takeOver options announced = .ok taken) : taken.simulate = options.simulate := by
  unfold takeOver at read
  split at read
  · cases read
    rfl
  · cases read
  · unfold Options.withDirectory at read
    split at read
    · cases read
    · cases read
      rfl

/-- Arguments that ask for a sweep end it with two dashes, or go on to ask for it. -/
theorem follow_cons {options final : Options} {announced : Announced} {text : String}
    {rest : List String} (parsed : follow options announced (text :: rest) = .ok (.sweep final)) :
    (rest = [] ∧ Argument.of text = .escape ∧ final.simulate = options.simulate) ∨
      ∃ next later, follow next later rest = .ok (.sweep final) ∧
        (next.simulate = true ↔ options.simulate = true ∨ text = "--simulate") := by
  rw [← Argument.of_eq_simulate_iff]
  rw [follow.eq_def] at parsed
  simp only at parsed
  split at parsed
  · rename_i escape
    split at parsed
    · obtain ⟨taken, read, same⟩ := exists_of_bind_eq_ok parsed
      cases same
      exact Or.inl ⟨rfl, escape, takeOver_simulate read⟩
    · cases parsed
  · rename_i plain
    exact Or.inr ⟨_, _, parsed, by simp [plain]⟩
  · cases parsed
  · split at parsed
    · obtain ⟨_, _, same⟩ := exists_of_bind_eq_ok parsed
      split at same <;> cases same
    · cases parsed
  · rename_i name value long
    right
    split at parsed
    · cases parsed
    · rename_i found
      obtain ⟨taken, read, further⟩ := exists_of_bind_eq_ok parsed
      refine ⟨taken, _, further, ?_⟩
      rw [takeOver_simulate read, long, Flag.name_of_ofName? found]
      simp [Flag.name]
    · rename_i found
      obtain ⟨taken, read, also⟩ := exists_of_bind_eq_ok parsed
      obtain ⟨given, placed, further⟩ := exists_of_bind_eq_ok also
      refine ⟨given, _, further, ?_⟩
      have placed : takeOver taken (some (some _)) = .ok given := placed
      have same := takeOver_simulate placed
      rw [same, takeOver_simulate read, long]
      simp
    · cases parsed
    · rename_i found
      obtain ⟨taken, read, also⟩ := exists_of_bind_eq_ok parsed
      obtain ⟨given, placed, further⟩ := exists_of_bind_eq_ok also
      refine ⟨given, _, further, ?_⟩
      have on : given.simulate = true := by
        unfold Options.withSimulate at placed
        split at placed
        · cases placed
        · cases placed
          rfl
      rw [long, Flag.name_of_ofName? found]
      simp [on, Flag.name]
    · obtain ⟨_, _, same⟩ := exists_of_bind_eq_ok parsed
      split at same <;> cases same

/-- Arguments that ask for a sweep ask for a simulation exactly when the option is among them. -/
theorem follow_simulate_iff {options final : Options} {announced : Announced}
    {arguments : List String}
    (parsed : follow options announced arguments = .ok (.sweep final)) :
    final.simulate = true ↔ options.simulate = true ∨ "--simulate" ∈ arguments := by
  induction arguments generalizing options announced with
  | nil =>
    obtain ⟨taken, read, same⟩ := exists_of_bind_eq_ok parsed
    cases same
    simp [takeOver_simulate read]
  | cons text rest hypothesis =>
    rw [List.mem_cons]
    rcases follow_cons parsed with ⟨rfl, escape, same⟩ | ⟨next, later, further, simulates⟩
    · have apart : text ≠ "--simulate" := by
        rintro rfl
        rw [Argument.of_eq_simulate_iff.mpr rfl] at escape
        cases escape
      rw [same]
      simp [apart.symm]
    · rw [hypothesis further, simulates, eq_comm (a := text), or_assoc]

end CommandLine

/-! ## Settings and secrets -/

namespace Settings

variable {environment : Environment} {path : String} {state : FileState}

/-- An override cannot be used exactly when the word for simulations is no truth value. -/
theorem override_fault_iff (settings : Settings) :
    (∃ fault, (settings.override environment).fault = some fault) ↔
      ∃ text, environment Environment.simulate = some text ∧ truthOf? text = none := by
  rw [override]
  generalize settings.overrideSubscription environment = first
  obtain ⟨settings, log⟩ := first
  simp only [overrideSimulate]
  cases word : environment Environment.simulate with
  | none => simp
  | some text =>
    cases truth : truthOf? text with
    | none => simp [truth]
    | some simulate => simp [truth]

/-- Settings are loaded exactly when their file holds some, and the overrides and the check leave
them without a fault. -/
theorem ofFile_eq_ok_iff {loaded : Settings} :
    (ofFile environment path state).1 = .ok loaded ↔
      ∃ text settings, state = .content text ∧ (Toml.read? text).bind ofValue? = some settings ∧
        (settings.override environment).fault = none ∧
        (settings.override environment).settings.fault? = none ∧
        (settings.override environment).settings = loaded := by
  constructor
  · intro read
    cases state with
    | absent | unreadable reason => cases read
    | content text =>
      cases parsed : (Toml.read? text).bind ofValue? with
      | none => simp [ofFile, parsed] at read
      | some settings =>
        simp only [ofFile, parsed, adopt] at read
        split at read
        · cases read
        · cases read
        · rename_i overridden checked
          exact ⟨text, settings, rfl, parsed, overridden, checked, Except.ok.inj read⟩
  · rintro ⟨text, settings, rfl, parsed, overridden, checked, rfl⟩
    simp [ofFile, parsed, adopt, overridden, checked]

end Settings

/-- Secrets are loaded exactly when there is no file, which stands for none, or it holds some. -/
theorem Secrets.ofFile_eq_ok_iff {path : String} {state : FileState} {loaded : Secrets} :
    (ofFile path state).1 = .ok loaded ↔ (state = .absent ∧ loaded = {}) ∨
      ∃ text, state = .content text ∧ (Toml.read? text).bind ofValue? = some loaded := by
  cases state with
  | absent => simp [ofFile, eq_comm (a := loaded)]
  | unreadable reason => simp [ofFile]
  | content text =>
    cases parsed : (Toml.read? text).bind ofValue? with
    | none => simp [ofFile, parsed]
    | some secrets => simp [ofFile, parsed]

/-- There is no token to use exactly when the environment has none that is not blank, and neither
do the secrets. -/
theorem Secrets.accessToken?_eq_none_iff {secrets : Secrets} {environment : Environment} :
    secrets.accessToken? environment = none ↔
      environment.filled? Environment.accessToken = none ∧
        ∀ token, secrets.token = some token → Text.allBlank token = true := by
  rw [accessToken?]
  cases filled : environment.filled? Environment.accessToken with
  | none => simp [Option.filter_eq_none_iff]
  | some token =>
    have written : Text.allBlank token = false := by
      simpa using (Option.filter_eq_some_iff.mp filled).2
    simp [written]

/-- A directory is loaded exactly when its settings and its secrets are. -/
theorem loadDirectory_eq_ok_iff {environment : Environment} {files : Files} {directory : String}
    {settings : Settings} {secrets : Secrets} :
    (loadDirectory environment files directory).1 = .ok (settings, secrets) ↔
      (Settings.ofFile environment (Settings.path directory)
          (files (Settings.path directory))).1 = .ok settings ∧
        (Secrets.ofFile (Secrets.path directory) (files (Secrets.path directory))).1 =
          .ok secrets := by
  rw [loadDirectory]
  cases Settings.ofFile environment (Settings.path directory)
      (files (Settings.path directory)) with
  | mk first log =>
    cases first with
    | error fault => simp
    | ok loaded =>
      simp only
      cases Secrets.ofFile (Secrets.path directory) (files (Secrets.path directory)) with
      | mk second later =>
        cases second with
        | error fault => simp
        | ok found => simp

namespace Program

/-- What keeps the program from a run with the settings of a directory. -/
inductive Unready (environment : Environment) (files : Files) (directory : String) : Prop where
  /-- There is no file with settings. -/
  | absent (missing : files (Settings.path directory) = .absent)
  /-- The file with settings cannot be read. -/
  | unreadable {reason : String}
      (unread : files (Settings.path directory) = .unreadable reason)
  /-- The file does not hold settings. -/
  | malformed {text : String} (found : files (Settings.path directory) = .content text)
      (malformed : (Toml.read? text).bind Settings.ofValue? = none)
  /-- The word of the environment for simulations is no truth value. -/
  | unusable {text : String} (set : environment Environment.simulate = some text)
      (meaningless : truthOf? text = none)
  /-- The settings have a fault after the overrides. -/
  | invalid {text : String} {settings : Settings} {fault : SettingsFault}
      (found : files (Settings.path directory) = .content text)
      (parsed : (Toml.read? text).bind Settings.ofValue? = some settings)
      (faulty : (settings.override environment).settings.fault? = some fault)
  /-- The file with secrets cannot be read. -/
  | unreadSecrets {reason : String}
      (unread : files (Secrets.path directory) = .unreadable reason)
  /-- The file does not hold secrets. -/
  | malformedSecrets {text : String} (found : files (Secrets.path directory) = .content text)
      (malformed : (Toml.read? text).bind Secrets.ofValue? = none)
  /-- Neither the environment nor the file with secrets has a token that is not blank. -/
  | noToken (unset : environment.filled? Environment.accessToken = none)
      (blank : ∀ text secrets token, files (Secrets.path directory) = .content text →
        (Toml.read? text).bind Secrets.ofValue? = some secrets → secrets.token = some token →
          Text.allBlank token = true)

variable {environment : Environment} {files : Files} {options : CommandLine.Options}

/-- A plan has the loaded settings and the token to use. -/
theorem prepare_eq_ok_iff {plan : Plan} :
    (prepare environment files options).1 = .ok plan ↔
      ∃ secrets, (loadDirectory environment files (directory environment options)).1 =
          .ok (plan.settings, secrets) ∧
        secrets.accessToken? environment = some plan.token.secret := by
  rw [prepare]
  cases loadDirectory environment files (directory environment options) with
  | mk loaded log =>
    cases loaded with
    | error fault => simp
    | ok found =>
      obtain ⟨settings, secrets⟩ := found
      cases available : secrets.accessToken? environment with
      | none =>
        refine iff_of_false (by simp [available]) ?_
        rintro ⟨also, same, token⟩
        obtain ⟨-, rfl⟩ := Prod.mk.inj (Except.ok.inj same)
        rw [available] at token
        cases token
      | some secret =>
        simp only [available]
        constructor
        · intro made
          obtain rfl := Except.ok.inj made
          exact ⟨secrets, rfl, available⟩
        · rintro ⟨also, same, token⟩
          obtain ⟨rfl, rfl⟩ := Prod.mk.inj (Except.ok.inj same)
          rw [available] at token
          rw [Option.some.inj token]

/-- Settings are loaded unless something keeps the program from a run. -/
theorem exists_settings {place : String} (ready : ¬ Unready environment files place) :
    ∃ settings, (Settings.ofFile environment (Settings.path place)
      (files (Settings.path place))).1 = .ok settings := by
  cases state : files (Settings.path place) with
  | absent => exact absurd (.absent state) ready
  | unreadable reason => exact absurd (.unreadable state) ready
  | content text =>
    cases parsed : (Toml.read? text).bind Settings.ofValue? with
    | none => exact absurd (.malformed state parsed) ready
    | some settings =>
      have overridden : (settings.override environment).fault = none := by
        by_contra some
        obtain ⟨word, set, meaningless⟩ :=
          (settings.override_fault_iff).mp (Option.ne_none_iff_exists'.mp some)
        exact ready (.unusable set meaningless)
      have checked : (settings.override environment).settings.fault? = none := by
        by_contra some
        obtain ⟨fault, faulty⟩ := Option.ne_none_iff_exists'.mp some
        exact ready (.invalid state parsed faulty)
      exact ⟨_, Settings.ofFile_eq_ok_iff.mpr
        ⟨text, settings, rfl, parsed, overridden, checked, rfl⟩⟩

/-- Secrets are loaded and there is a token unless something keeps the program from a run. -/
theorem exists_token {place : String} (ready : ¬ Unready environment files place) :
    ∃ secrets secret, (Secrets.ofFile (Secrets.path place) (files (Secrets.path place))).1 =
        .ok secrets ∧ secrets.accessToken? environment = some secret := by
  have loaded : ∃ secrets, (Secrets.ofFile (Secrets.path place)
      (files (Secrets.path place))).1 = .ok secrets := by
    cases state : files (Secrets.path place) with
    | absent => exact ⟨{}, rfl⟩
    | unreadable reason => exact absurd (.unreadSecrets state) ready
    | content text =>
      cases parsed : (Toml.read? text).bind Secrets.ofValue? with
      | none => exact absurd (.malformedSecrets state parsed) ready
      | some secrets => exact ⟨secrets, Secrets.ofFile_eq_ok_iff.mpr (Or.inr ⟨text, rfl, parsed⟩)⟩
  obtain ⟨secrets, loaded⟩ := loaded
  cases available : secrets.accessToken? environment with
  | some secret => exact ⟨secrets, secret, loaded, available⟩
  | none =>
    obtain ⟨unset, blank⟩ := Secrets.accessToken?_eq_none_iff.mp available
    refine absurd (.noToken unset fun text also token found parsed written => ?_) ready
    rcases Secrets.ofFile_eq_ok_iff.mp loaded with ⟨missing, -⟩ | ⟨content, state, read⟩
    · rw [missing] at found
      cases found
    · obtain rfl := FileState.content.inj (state.symm.trans found)
      obtain rfl := Option.some.inj (read.symm.trans parsed)
      exact blank token written

/-- The program refuses to run exactly when something keeps it from a run. -/
theorem prepare_refuses_iff :
    (∃ refusal, (prepare environment files options).1 = .error refusal) ↔
      Unready environment files (directory environment options) := by
  constructor
  · rintro ⟨refusal, refused⟩
    by_contra ready
    obtain ⟨settings, read⟩ := exists_settings ready
    obtain ⟨secrets, secret, found, available⟩ := exists_token ready
    have loaded := loadDirectory_eq_ok_iff.mpr ⟨read, found⟩
    have prepared : (prepare environment files options).1 = .ok ⟨settings, ⟨secret⟩⟩ :=
      prepare_eq_ok_iff.mpr ⟨secrets, loaded, available⟩
    rw [refused] at prepared
    cases prepared
  · intro unready
    cases prepared : (prepare environment files options).1 with
    | error refusal => exact ⟨refusal, rfl⟩
    | ok plan =>
      exfalso
      obtain ⟨secrets, loaded, token⟩ := prepare_eq_ok_iff.mp prepared
      obtain ⟨read, found⟩ := loadDirectory_eq_ok_iff.mp loaded
      obtain ⟨text, settings, state, parsed, overridden, checked, -⟩ :=
        Settings.ofFile_eq_ok_iff.mp read
      have kept := Secrets.ofFile_eq_ok_iff.mp found
      cases unready with
      | absent missing => simp [missing] at state
      | unreadable unread => simp [unread] at state
      | malformed other malformed =>
        obtain rfl := FileState.content.inj (state.symm.trans other)
        simp [malformed] at parsed
      | unusable set meaningless =>
        obtain ⟨fault, faulty⟩ := (settings.override_fault_iff).mpr ⟨_, set, meaningless⟩
        simp [faulty] at overridden
      | invalid other also faulty =>
        obtain rfl := FileState.content.inj (state.symm.trans other)
        obtain rfl := Option.some.inj (parsed.symm.trans also)
        simp [faulty] at checked
      | unreadSecrets unread => simp [unread] at kept
      | malformedSecrets other malformed => simp [other, malformed] at kept
      | noToken unset blank =>
        have none : secrets.accessToken? environment = none := by
          refine Secrets.accessToken?_eq_none_iff.mpr ⟨unset, fun written same => ?_⟩
          rcases kept with ⟨-, rfl⟩ | ⟨content, place, parsed⟩
          · cases same
          · exact blank content secrets written place parsed same
        simp [none] at token

end Program

end OffHours
