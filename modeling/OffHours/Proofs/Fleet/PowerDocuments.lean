import OffHours.Proofs.Fleet.LinkedPages

/-!
# Documents about power

What the answer about a machine says of its power, told from the fields of its document. The view
of a compute machine lists status codes, of which the first one of the power family counts,
wherever other ones stand (`PowerState.DecidedBy`); a classic machine has the status of its role.
A power state is read exactly from the documents that show it (`Manager.power?_eq_some_iff`), so
every other document is refused.
-/

namespace OffHours

variable {α : Type}

/-! ## Records of one field -/

/-- What stands in the one field of a record: under its name, or as the only entry of a list. -/
inductive Value.Field (name : String) : Value → Option Value → Prop where
  /-- Nothing stands under the name. -/
  | missing {entries : List (String × Value)} (unnamed : under entries name = []) :
    Field name (.table entries) none
  /-- One value stands under the name. -/
  | named {entries : List (String × Value)} {inner : Value}
    (once : under entries name = [inner]) : Field name (.table entries) (some inner)
  /-- A list without entries has no field. -/
  | empty : Field name (.list []) none
  /-- The entry of a list is its field. -/
  | single {inner : Value} : Field name (.list [inner]) (some inner)
  /-- A date has no field. -/
  | moment {stamp : String} : Field name (.moment stamp) none

namespace FieldReader

/-- The reader that takes the next field, if it is there, in some way. -/
def taking (name : String) (take : Option Value → Option α) : FieldReader α :=
  fun fields => (next name fields).bind fun (field, rest) => (take field).map (·, rest)

/-- A field that has to be there is taken when it is. -/
theorem required_eq (name : String) (reader : Value → Option α) :
    required name reader = taking name fun field => field.bind reader := by
  funext fields
  simp only [required, taking, bind, StateT.bind]
  cases next name fields with
  | none => rfl
  | some found =>
    obtain ⟨field, rest⟩ := found
    cases field with
    | none => rfl
    | some value =>
      simp only [Option.bind]
      cases reader value <;> rfl

/-- A field with a default is taken or left at that. -/
theorem withDefault_eq (name : String) (reader : Value → Option α) (absent : α) :
    withDefault name reader absent = taking name fun field => field.elim (some absent) reader := by
  funext fields
  simp only [withDefault, taking, bind, StateT.bind]
  cases next name fields with
  | none => rfl
  | some found =>
    obtain ⟨field, rest⟩ := found
    cases field with
    | none => rfl
    | some value =>
      simp only [Option.bind, Option.elim]
      cases reader value <;> rfl

/-- A field that may be null is taken or left out, but it cannot be left out of a list. -/
theorem nullable_eq {fields : Fields} (name : String) (reader : Value → Option α)
    (rest : fields ≠ .listed []) :
    nullable name reader fields =
      taking name (fun field => field.elim (some none) (Value.nullable? reader)) fields := by
  cases fields with
  | named entries =>
    rw [nullable_named]
    simp only [taking, next_named]
    rcases Value.under entries name with _ | ⟨inner, _ | ⟨second, others⟩⟩ <;> rfl
  | listed items =>
    cases items with
    | nil => exact absurd rfl rest
    | cons value rest =>
      simp only [nullable, taking, next, bind, StateT.bind, Option.bind, Option.elim]
      simp [get, getThe, MonadStateOf.get, StateT.get, pure]
      cases Value.nullable? reader value <;> rfl

end FieldReader

namespace Value

variable {name : String} {value : Value} {reader : Value → Option α} {found absent : α}

/-- What stands in the field of a table is what stands under its name, at most once. -/
theorem field_table_iff {entries : List (String × Value)} {field : Option Value} :
    field? none (some ∘ some) (under entries name) = some field ↔
      Field name (table entries) field := by
  constructor
  · intro taken
    rcases shape : under entries name with _ | ⟨inner, _ | ⟨second, others⟩⟩
    · rw [shape] at taken
      cases taken
      exact .missing shape
    · rw [shape] at taken
      cases taken
      exact .named shape
    · rw [shape] at taken
      cases taken
  · intro stands
    cases stands with
    | missing unnamed =>
      rw [unnamed]
      rfl
    | named once =>
      rw [once]
      rfl

/-- What stands in the field of a list is its entry, when there is one at most. -/
theorem field_list_iff (name : String) {items : List Value} {field : Option Value} :
    field? none (some ∘ some) items = some field ↔ Field name (list items) field := by
  constructor
  · intro taken
    rcases items with _ | ⟨inner, _ | ⟨second, others⟩⟩
    · cases taken
      exact .empty
    · cases taken
      exact .single
    · cases taken
  · rintro (_ | _ | _) <;> rfl

/-- A record of one field is read from what stands in that. -/
theorem record?_taking_iff {take : Option Value → Option α} :
    value.record? (.taking name take) = some found ↔
      ∃ field, Field name value field ∧ take field = some found := by
  have table : ∀ entries, (table entries).record? (.taking name take) =
      (field? none (some ∘ some) (under entries name)).bind take := by
    intro entries
    simp only [record?, FieldReader.taking, FieldReader.next_named]
    rcases under entries name with _ | ⟨inner, _ | ⟨second, others⟩⟩
    · cases taken : take none <;> simp [field?, taken]
    · cases taken : take (some inner) <;> simp [field?, taken]
    · rfl
  have list : ∀ items, (list items).record? (.taking name take) =
      (field? none (some ∘ some) items).bind take := by
    intro items
    simp only [record?, FieldReader.taking]
    rcases items with _ | ⟨inner, _ | ⟨second, others⟩⟩
    · cases taken : take none <;> simp [FieldReader.next, field?, taken]
    · cases taken : take (some inner) <;> simp [FieldReader.next, field?, taken]
    · cases taken : take (some inner) <;> simp [FieldReader.next, field?, taken]
  cases value with
  | table entries => simp only [table, Option.bind_eq_some_iff, field_table_iff]
  | list items => simp only [list, Option.bind_eq_some_iff, field_list_iff name]
  | moment stamp =>
    -- A date is read as a table without entries.
    have bare : (moment stamp).record? (.taking name take) = take none := table []
    rw [bare]
    constructor
    · exact fun taken => ⟨none, .moment, taken⟩
    · rintro ⟨_, ⟨⟩, taken⟩
      exact taken
  | _ =>
    refine iff_of_false (fun none => by cases none) ?_
    rintro ⟨field, stands, -⟩
    cases stands

/-- A record with a field that has to be there. -/
theorem record?_required_iff :
    value.record? (.required name reader) = some found ↔
      ∃ inner, Field name value (some inner) ∧ reader inner = some found := by
  rw [FieldReader.required_eq, record?_taking_iff]
  constructor
  · rintro ⟨_ | inner, stands, read⟩
    · cases read
    · exact ⟨inner, stands, read⟩
  · rintro ⟨inner, stands, read⟩
    exact ⟨some inner, stands, read⟩

/-- A record with a field that has a default. -/
theorem record?_withDefault_iff :
    value.record? (.withDefault name reader absent) = some found ↔
      (Field name value none ∧ found = absent) ∨
        ∃ inner, Field name value (some inner) ∧ reader inner = some found := by
  rw [FieldReader.withDefault_eq, record?_taking_iff]
  constructor
  · rintro ⟨_ | inner, stands, read⟩
    · exact Or.inl ⟨stands, (Option.some.inj read).symm⟩
    · exact Or.inr ⟨inner, stands, read⟩
  · rintro (⟨stands, rfl⟩ | ⟨inner, stands, read⟩)
    · exact ⟨none, stands, rfl⟩
    · exact ⟨some inner, stands, read⟩

/-- A value that may be null is null, or it is read. -/
theorem nullable?_eq_some_iff {found : Option α} :
    nullable? reader value = some found ↔
      (value = .null ∧ found = none) ∨
        value ≠ .null ∧ ∃ inner, reader value = some inner ∧ found = some inner := by
  cases value with
  | null => simp [nullable?, eq_comm]
  | _ => simp [nullable?, Option.map_eq_some_iff, @eq_comm _ found]

/-- A record with a field that may be null: it may be left out by name only. -/
theorem record?_nullable_iff {found : Option α} :
    value.record? (.nullable name reader) = some found ↔
      value ≠ .list [] ∧ ∃ field, Field name value field ∧
        field.elim (some none) (nullable? reader) = some found := by
  by_cases empty : value = .list []
  · subst empty
    simp only [ne_eq, not_true_eq_false, false_and, iff_false]
    exact fun none => by cases none
  · have same : value.record? (.nullable name reader) =
        value.record? (.taking name fun field => field.elim (some none) (nullable? reader)) := by
      cases value with
      | table entries | moment stamp =>
        simp only [record?, FieldReader.nullable_eq, ne_eq, reduceCtorEq, not_false_eq_true]
      | list items =>
        have rest : Fields.listed items ≠ .listed [] := fun same => empty (by cases same; rfl)
        simp only [record?, FieldReader.nullable_eq name reader rest]
      | _ => rfl
    rw [same, record?_taking_iff]
    simp [empty]

end Value

/-! ## Power states by name -/

namespace PowerState

/-- The states that codes of the power family name. -/
def codeNames : List (String × PowerState) :=
  [("running", running), ("starting", starting), ("stopped", stopped), ("stopping", stopping),
    ("deallocating", stopping), ("deallocated", deallocated)]

/-- The states that statuses of roles name. -/
def roleNames : List (String × PowerState) :=
  [("ReadyRole", running), ("Started", running), ("StartingVM", starting),
    ("StartingRole", starting), ("CreatingVM", starting), ("CreatingRole", starting),
    ("RestartingRole", starting), ("StoppingVM", stopping), ("StoppingRole", stopping),
    ("StoppedVM", stopped), ("Stopped", stopped), ("StoppedDeallocated", deallocated)]

/-- The state that a name stands for; every other name is unknown. -/
def under (names : List (String × PowerState)) (name : String) : PowerState :=
  (names.lookup name).getD unknown

/-- A name without a state is unknown. -/
theorem under_of_other {names : List (String × PowerState)} {name : String}
    (other : ∀ entry ∈ names, name ≠ entry.1) : under names name = unknown := by
  have none : names.lookup name = none :=
    List.lookup_eq_none_iff.mpr fun entry present => bne_iff_ne.mpr (other entry present)
  rw [under, none]
  rfl

/-- A code is of the power family. -/
def IsPower (code : String) : Prop := ∃ rest, code = "PowerState/" ++ rest

/-- Codes are of the power family when they begin so. -/
theorem isPowerCode_iff {code : String} : isPowerCode code = true ↔ IsPower code :=
  Text.isPrefixOf_iff

/-- A code of the power family stands for the state that it names behind, in any case. -/
theorem ofComputeCode_eq (rest : String) :
    ofComputeCode ("PowerState/" ++ rest) = under codeNames (Text.fold rest) := by
  have power : isPowerCode ("PowerState/" ++ rest) = true := isPowerCode_iff.mpr ⟨rest, rfl⟩
  have behind : ("PowerState/" ++ rest).toList.drop codePrefix.length = rest.toList := by
    rw [String.toList_append]
    exact List.drop_left
  rw [ofComputeCode, if_pos power, behind, String.ofList_toList]
  generalize Text.fold rest = name
  split
  case h_7 =>
    refine (under_of_other ?_).symm
    simp only [codeNames, List.forall_mem_cons, List.not_mem_nil, IsEmpty.forall_iff,
      implies_true, and_true]
    and_intros <;> assumption
  all_goals rfl

/-- The status of a role stands for the state that it names. -/
theorem ofClassicStatus_eq (role : String) : ofClassicStatus role = under roleNames role := by
  unfold ofClassicStatus
  split
  case h_13 =>
    refine (under_of_other ?_).symm
    simp only [roleNames, List.forall_mem_cons, List.not_mem_nil, IsEmpty.forall_iff,
      implies_true, and_true]
    and_intros <;> assumption
  all_goals rfl

/-- The state that status codes decide. -/
inductive DecidedBy : List String → PowerState → Prop where
  /-- The first code of the power family names it. -/
  | first {before after : List String} {rest : String} (others : ∀ code ∈ before, ¬ IsPower code) :
    DecidedBy (before ++ ("PowerState/" ++ rest) :: after) (under codeNames (Text.fold rest))
  /-- Without a code of the power family it is unknown. -/
  | none {codes : List String} (others : ∀ code ∈ codes, ¬ IsPower code) :
    DecidedBy codes unknown

/-- Status codes decide the state that is read from them. -/
theorem powerOfCodes_eq_iff {codes : List String} {state : PowerState} :
    Manager.powerOfCodes codes = state ↔ DecidedBy codes state := by
  have others : ∀ before : List String, (∀ code ∈ before, ¬ IsPower code) →
      ∀ code ∈ before, (!isPowerCode code) = true := by
    intro before unlike code present
    have not := mt isPowerCode_iff.mp (unlike code present)
    simpa using not
  constructor
  · rintro rfl
    rw [Manager.powerOfCodes]
    cases found : codes.find? isPowerCode with
    | none =>
      refine .none fun code present power => ?_
      exact List.find?_eq_none.mp found code present (isPowerCode_iff.mpr power)
    | some code =>
      obtain ⟨power, before, after, rfl, unlike⟩ := List.find?_eq_some_iff_append.mp found
      obtain ⟨rest, rfl⟩ := isPowerCode_iff.mp power
      rw [Option.map_some, Option.getD_some, ofComputeCode_eq]
      refine .first fun code present power => ?_
      have not := unlike code present
      rw [isPowerCode_iff.mpr power] at not
      cases not
  · rintro (@⟨before, after, rest, unlike⟩ | unlike)
    · have power : isPowerCode ("PowerState/" ++ rest) = true := isPowerCode_iff.mpr ⟨rest, rfl⟩
      have found : (before ++ ("PowerState/" ++ rest) :: after).find? isPowerCode =
          some ("PowerState/" ++ rest) :=
        List.find?_eq_some_iff_append.mpr ⟨power, before, after, rfl, others before unlike⟩
      rw [Manager.powerOfCodes, found, Option.map_some, Option.getD_some, ofComputeCode_eq]
    · have found : codes.find? isPowerCode = Option.none :=
        List.find?_eq_none.mpr fun code present power =>
          unlike code present (isPowerCode_iff.mp power)
      rw [Manager.powerOfCodes, found]
      rfl

end PowerState

/-! ## What documents show -/

namespace Manager

/-- The status codes in the view of a compute machine, in order. -/
inductive CodesIn : Value → List String → Prop where
  /-- There are none when they are left out. -/
  | missing {view : Value} (stands : view.Field "statuses" none) : CodesIn view []
  /-- Every status has a code. -/
  | listed {view : Value} {statuses : List Value} {codes : List String}
    (stands : view.Field "statuses" (some (.list statuses)))
    (each : List.Forall₂ (fun status code => status.Field "code" (some (.text code)))
      statuses codes) : CodesIn view codes

/-- The status of a role in the view of a classic machine. -/
inductive RoleInView : Value → Option String → Prop where
  /-- There is none when it is left out; it cannot be left out of a list. -/
  | missing {view : Value} (stands : view.Field "status" none) (named : view ≠ .list []) :
    RoleInView view none
  /-- Null stands for none. -/
  | null {view : Value} (stands : view.Field "status" (some .null)) : RoleInView view none
  /-- A text is one. -/
  | written {view : Value} {role : String} (stands : view.Field "status" (some (.text role))) :
    RoleInView view (some role)

/-- The status of a role in the properties of a classic machine. -/
inductive RoleInProperties : Value → Option String → Prop where
  /-- There is none without a view. -/
  | missing {properties : Value} (stands : properties.Field "instanceView" none) :
    RoleInProperties properties none
  /-- Null stands for no view. -/
  | null {properties : Value} (stands : properties.Field "instanceView" (some .null)) :
    RoleInProperties properties none
  /-- It stands in the view. -/
  | viewed {properties view : Value} {role : Option String}
    (stands : properties.Field "instanceView" (some view)) (inner : RoleInView view role) :
    RoleInProperties properties role

/-- The status of a role in the document of a classic machine. -/
inductive RoleIn : Value → Option String → Prop where
  /-- There is none without properties. -/
  | missing {document : Value} (stands : document.Field "properties" none) : RoleIn document none
  /-- It stands in the properties. -/
  | owned {document properties : Value} {role : Option String}
    (stands : document.Field "properties" (some properties))
    (inner : RoleInProperties properties role) : RoleIn document role

/-- What the document of a machine says of its power. -/
inductive ShowsPower : ResourceKind → Value → PowerState → Prop where
  /-- The codes in the view of a compute machine decide it. -/
  | compute {document : Value} {codes : List String} {state : PowerState}
    (stand : CodesIn document codes) (decided : PowerState.DecidedBy codes state) :
    ShowsPower .compute document state
  /-- The status of its role names the state of a classic machine. -/
  | classic {document : Value} {role : String} (stands : RoleIn document (some role)) :
    ShowsPower .classic document (.under PowerState.roleNames role)
  /-- Without a status the state of a classic machine is unknown. -/
  | silent {document : Value} (stands : RoleIn document none) :
    ShowsPower .classic document .unknown

/-- A text is read from a text. -/
theorem text?_eq_some_iff {value : Value} {content : String} :
    value.text? = some content ↔ value = .text content := by
  cases value <;> simp [Value.text?]

/-- Values are read one by one when each of them can be. -/
theorem mapM_eq_some_iff {reader : Value → Option α} {values : List Value} {items : List α} :
    values.mapM reader = some items ↔
      List.Forall₂ (fun value item => reader value = some item) values items := by
  induction values generalizing items with
  | nil => simp [eq_comm]
  | cons value values hypothesis =>
    simp only [List.mapM_cons, Option.bind_eq_bind, Option.bind_eq_some_iff, hypothesis,
      List.forall₂_cons_left_iff, Option.pure_def, Option.some.injEq]
    constructor
    · rintro ⟨item, read, others, each, rfl⟩
      exact ⟨item, others, read, each, rfl⟩
    · rintro ⟨item, others, read, each, rfl⟩
      exact ⟨item, read, others, each, rfl⟩

/-- The power state of a compute machine is read from the codes in its view. -/
theorem computePower?_eq_some_iff {document : Value} {state : PowerState} :
    computePower? document = some state ↔
      ∃ codes, CodesIn document codes ∧ PowerState.DecidedBy codes state := by
  have codesIn : ∀ codes, document.record? (.withDefault "statuses"
      (Value.list? fun value => value.record? (.required "code" Value.text?)) []) = some codes ↔
        CodesIn document codes := by
    intro codes
    simp only [Value.record?_withDefault_iff]
    constructor
    · rintro (⟨stands, rfl⟩ | ⟨inner, stands, read⟩)
      · exact .missing stands
      · cases inner with
        | list statuses =>
          refine .listed stands ((mapM_eq_some_iff.mp read).imp fun status code taken => ?_)
          obtain ⟨inner, stands, read⟩ := Value.record?_required_iff.mp taken
          obtain rfl := text?_eq_some_iff.mp read
          exact stands
        | _ => cases read
    · rintro (stands | @⟨statuses, _, stands, each⟩)
      · exact Or.inl ⟨stands, rfl⟩
      · refine Or.inr ⟨.list statuses, stands, mapM_eq_some_iff.mpr (each.imp ?_)⟩
        exact fun status code stands =>
          Value.record?_required_iff.mpr ⟨.text code, stands, rfl⟩
  simp only [computePower?, Option.bind_eq_bind, Option.bind_eq_some_iff, codesIn,
    Option.pure_def, Option.some.injEq, PowerState.powerOfCodes_eq_iff]

/-- A status of another family in front does not count. -/
example : computePower? (.table [("statuses", .list
    [.table [("code", .text "ProvisioningState/stopped")],
      .table [("code", .text "PowerState/Running"), ("level", .text "Info")]])]) =
        some .running := by
  decide +kernel

/-- The status of a role is read from the view as it stands there. -/
theorem roleInView_iff {view : Value} {role : Option String} :
    view.record? (.nullable "status" Value.text?) = some role ↔ RoleInView view role := by
  rw [Value.record?_nullable_iff]
  constructor
  · rintro ⟨named, _ | inner, stands, read⟩
    · cases read
      exact .missing stands named
    · rcases Value.nullable?_eq_some_iff.mp read with ⟨rfl, rfl⟩ | ⟨-, written, taken, rfl⟩
      · exact .null stands
      · obtain rfl := text?_eq_some_iff.mp taken
        exact .written stands
  · rintro (⟨stands, named⟩ | stands | stands)
    · exact ⟨named, none, stands, rfl⟩
    · exact ⟨fun bare => (by cases bare; cases stands), some .null, stands, rfl⟩
    · exact ⟨fun bare => (by cases bare; cases stands), some (.text _), stands, rfl⟩

/-- The status of a role is read from the properties as it stands there. -/
theorem roleInProperties_iff {properties : Value} {role : Option String} :
    (∃ status, properties.record? (.withDefault "instanceView" (Value.nullable? fun view =>
        view.record? (.nullable "status" Value.text?)) none) = some status ∧
        status.join = role) ↔ RoleInProperties properties role := by
  simp only [Value.record?_withDefault_iff, Value.nullable?_eq_some_iff, roleInView_iff]
  constructor
  · rintro ⟨status, ⟨stands, rfl⟩ | ⟨view, stands, ⟨rfl, rfl⟩ | ⟨-, role, inner, rfl⟩⟩, rfl⟩
    · exact .missing stands
    · exact .null stands
    · exact .viewed stands inner
  · intro stands
    cases stands with
    | missing stands => exact ⟨none, Or.inl ⟨stands, rfl⟩, rfl⟩
    | null stands => exact ⟨none, Or.inr ⟨.null, stands, Or.inl ⟨rfl, rfl⟩⟩, rfl⟩
    | @viewed view role stands inner =>
      have record : view ≠ .null := by
        rintro rfl
        cases roleInView_iff.mpr inner
      exact ⟨some role, Or.inr ⟨view, stands, Or.inr ⟨record, role, inner, rfl⟩⟩, rfl⟩

/-- The power state of a classic machine is the one that the status of its role names. -/
theorem classicPower?_eq_some_iff {document : Value} {state : PowerState} :
    classicPower? document = some state ↔
      ∃ role, RoleIn document role ∧
        (role.map (PowerState.under PowerState.roleNames)).getD .unknown = state := by
  have named : (PowerState.ofClassicStatus : String → PowerState) =
      PowerState.under PowerState.roleNames := funext PowerState.ofClassicStatus_eq
  simp only [classicPower?, Option.bind_eq_bind, Option.bind_eq_some_iff, Option.pure_def,
    Option.some.injEq, named, Value.record?_withDefault_iff]
  constructor
  · rintro ⟨status, ⟨stands, rfl⟩ | ⟨properties, stands, read⟩, rfl⟩
    · exact ⟨none, .missing stands, rfl⟩
    · have inner := roleInProperties_iff.mp ⟨status, Value.record?_withDefault_iff.mpr read, rfl⟩
      exact ⟨status.join, .owned stands inner, rfl⟩
  · rintro ⟨role, stands, rfl⟩
    cases stands with
    | missing stands => exact ⟨none, Or.inl ⟨stands, rfl⟩, rfl⟩
    | owned stands inner =>
      obtain ⟨status, read, rfl⟩ := roleInProperties_iff.mpr inner
      exact ⟨status, Or.inr ⟨_, stands, Value.record?_withDefault_iff.mp read⟩, rfl⟩

/-- A power state is read exactly from the documents that show it. -/
theorem power?_eq_some_iff {kind : ResourceKind} {document : Value} {state : PowerState} :
    power? kind document = some state ↔ ShowsPower kind document state := by
  cases kind with
  | compute =>
    rw [power?, computePower?_eq_some_iff]
    constructor
    · rintro ⟨codes, stand, decided⟩
      exact .compute stand decided
    · rintro (⟨stand, decided⟩)
      exact ⟨_, stand, decided⟩
  | classic =>
    rw [power?, classicPower?_eq_some_iff]
    constructor
    · rintro ⟨_ | role, stands, rfl⟩
      · exact .silent stands
      · exact .classic stands
    · rintro (_ | stands | stands)
      · exact ⟨_, stands, rfl⟩
      · exact ⟨_, stands, rfl⟩

end Manager

end OffHours
