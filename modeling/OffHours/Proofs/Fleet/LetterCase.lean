import OffHours.Proofs.Fleet.Counterparts
import OffHours.Proofs.Fleet.Paging
import OffHours.Proofs.Fleet.Rearrangement
import OffHours.Proofs.Fleet.Roster

/-!
# Letter case in names

The platform does not tell names apart by the case of their letters: keys of tags, names of groups
and types of resources. Two inventories that spell these names in different cases, and two keys of
the schedule tag that do, lead to the same decisions: `letter_case_never_decides`. Case is folded
at five places, each with its own lemma here: where a tag is looked up (`Tags.Respells.value?_eq`),
where groups without the tag are left out of a listing (`ResourceGroup.Respells.carries_eq`), where
the table of groups is made (`GroupSchedules.ofGroups_respelled`), where a machine's group is looked
up in it (`Machine.Respells.resolve?_eq`), and where the family of a machine is told from its type
(`Machine.Respells.kind?_eq`). From there on the two sweeps are sweeps over counterparts.
-/

namespace OffHours

variable {σ κ α β ε : Type}

/-! ## Names in another case -/

/-- The tags with folded keys. -/
def Tags.folded (tags : Tags) : Tags := tags.map fun tag => (Text.fold tag.1, tag.2)

/-- Two maps of tags have the same values under the same names, in whatever case and order. No two
keys are one name. -/
structure Tags.Respells (left right : Tags) : Prop where
  /-- The same values under the same names. -/
  entries : left.folded.Perm right.folded
  /-- No two keys are one name. -/
  distinct : (left.folded.map Prod.fst).Nodup

/-- Two entries of one machine spell its group, its type and the keys of its tags in different
cases. -/
structure Machine.Respells (left right : Machine) : Prop where
  /-- One id. -/
  id : left.id = right.id
  /-- One name. -/
  name : left.name = right.name
  /-- One group. -/
  group : Text.fold left.group = Text.fold right.group
  /-- One type. -/
  typeName : Text.fold left.typeName = Text.fold right.typeName
  /-- The same tags. -/
  tags : left.tags.Respells right.tags

/-- Two entries of one group spell its name and the keys of its tags in different cases. -/
structure ResourceGroup.Respells (left right : ResourceGroup) : Prop where
  /-- One name. -/
  name : Text.fold left.name = Text.fold right.name
  /-- The same tags. -/
  tags : left.tags.Respells right.tags

/-- Two inventories spell the names of the platform in different cases. -/
structure Inventory.Respells (left right : Inventory) : Prop where
  /-- The same machines in the same order. -/
  machines : List.Forall₂ Machine.Respells left.machines right.machines
  /-- The same groups in the same order. -/
  groups : List.Forall₂ ResourceGroup.Respells left.groups right.groups

/-- A tag is looked up among the folded keys. -/
theorem Tags.value?_eq_lookup (tags : Tags) (key : String) :
    tags.value? key = tags.folded.lookup (Text.fold key) := by
  induction tags with
  | nil => rfl
  | cons tag rest hypothesis =>
    have order : (Text.fold key == Text.fold tag.1) = Text.sameName tag.1 key := by
      rw [Text.sameName, Bool.beq_comm]
    have first : Tags.folded (tag :: rest) = (Text.fold tag.1, tag.2) :: Tags.folded rest := rfl
    rw [first, List.lookup_cons, order, ← hypothesis, Tags.value?, List.find?_cons]
    cases Text.sameName tag.1 key with
    | true => rfl
    | false => rfl

variable {tagKey otherKey : String}

/-- A tag is found under every spelling of its key. -/
theorem Tags.Respells.value?_eq {left right : Tags} (same : left.Respells right)
    (named : Text.fold tagKey = Text.fold otherKey) :
    left.value? tagKey = right.value? otherKey := by
  rw [value?_eq_lookup, value?_eq_lookup, named]
  exact GroupSchedules.lookup_eq_of_perm same.entries same.distinct _

/-- A group carries a tag under every spelling of its key. -/
theorem ResourceGroup.Respells.carries_eq {left right : ResourceGroup} (same : left.Respells right)
    (named : Text.fold tagKey = Text.fold otherKey) :
    left.carries tagKey = right.carries otherKey := by
  rw [carries, carries, same.tags.value?_eq named]

/-- The table of groups is the same under every spelling. -/
theorem GroupSchedules.ofGroups_respelled {left right : List ResourceGroup}
    (same : List.Forall₂ ResourceGroup.Respells left right)
    (named : Text.fold tagKey = Text.fold otherKey) :
    ofGroups left tagKey = ofGroups right otherKey := by
  have added : ∀ table : GroupSchedules,
      left.foldl (add tagKey) table = right.foldl (add otherKey) table := by
    induction same with
    | nil => exact fun table => by rw [List.foldl_nil, List.foldl_nil]
    | @cons first second _ _ pair _ hypothesis =>
      intro table
      have entry : add tagKey table first = add otherKey table second := by
        rw [add, add, pair.tags.value?_eq named, pair.name]
      rw [List.foldl_cons, List.foldl_cons, entry, hypothesis]
  rw [ofGroups, ofGroups, added]

namespace Machine.Respells

variable {left right : Machine}

/-- The family of a machine is told from every spelling of its type. -/
theorem kind?_eq (same : left.Respells right) : left.kind? = right.kind? := by
  rw [kind?, kind?, ResourceKind.ofType?, ResourceKind.ofType?]
  simp only [Text.sameName, same.typeName]

/-- The tag that counts for a machine is the same under every spelling. -/
theorem resolve?_eq (same : left.Respells right) (groups : GroupSchedules)
    (named : Text.fold tagKey = Text.fold otherKey) :
    (EffectiveSchedule.resolve? left groups tagKey).map EffectiveSchedule.tag =
      (EffectiveSchedule.resolve? right groups otherKey).map EffectiveSchedule.tag := by
  rw [EffectiveSchedule.resolve?, EffectiveSchedule.resolve?, same.tags.value?_eq named, same.group]
  cases right.tags.value? otherKey with
  | some tag => rfl
  | none =>
    cases groups.lookup (Text.fold right.group) with
    | some tag => rfl
    | none => rfl

/-- A machine is briefed alike under every spelling. -/
theorem brief_eq (same : left.Respells right) {orders others : SweepOrders}
    (named : Text.fold orders.tagKey = Text.fold others.tagKey)
    (groups : orders.groups = others.groups) (now : orders.now = others.now)
    (controls : ResourceKind → Bool) :
    (brief orders controls left).1 = (brief others controls right).1 := by
  have control : (controlOf controls left).1 = (controlOf controls right).1 := by
    rw [controlOf, controlOf, same.kind?_eq]
    cases right.kind? with
    | none => rfl
    | some kind =>
      cases held : controls kind with
      | true => simp [held]
      | false => simp [held]
  have tag := same.resolve?_eq orders.groups named
  rw [brief, brief, ← groups, ← now]
  cases first : EffectiveSchedule.resolve? left orders.groups orders.tagKey with
  | none =>
    rw [first, Option.map_none, eq_comm, Option.map_eq_none_iff] at tag
    rw [tag]
  | some schedule =>
    rw [first, Option.map_some, eq_comm, Option.map_eq_some_iff] at tag
    obtain ⟨other, second, tag⟩ := tag
    rw [second]
    simp only [control, tag]
    cases (controlOf controls right).1 with
    | none => rfl
    | some kind => rfl

end Machine.Respells

/-! ## Names in capitals -/

/-- The capital of a small letter has that small letter. -/
theorem toLower_toUpper (c : Char) : c.toUpper.toLower = c.toLower := by
  by_cases small : 'a'.val ≤ c.val ∧ c.val ≤ 'z'.val
  · have low : 97 ≤ c.val.toNat := small.1
    have high : c.val.toNat ≤ 122 := small.2
    have up : ('A'.val - 'a'.val).toNat = 4294967264 := rfl
    have down : ('a'.val - 'A'.val).toNat = 32 := rfl
    have code : (c.val + ('A'.val - 'a'.val)).toNat = c.val.toNat - 32 := by
      rw [UInt32.toNat_add, up]
      omega
    have capital : 'A'.val ≤ c.val + ('A'.val - 'a'.val) ∧
        c.val + ('A'.val - 'a'.val) ≤ 'Z'.val := by
      have first : 'A'.val.toNat = 65 := rfl
      have last : 'Z'.val.toNat = 90 := rfl
      rw [UInt32.le_iff_toNat_le, UInt32.le_iff_toNat_le, code]
      omega
    have other : ¬ ('A'.val ≤ c.val ∧ c.val ≤ 'Z'.val) := by
      rintro ⟨-, bound⟩
      have bound : c.val.toNat ≤ 90 := bound
      omega
    unfold Char.toUpper Char.toLower
    rw [dif_pos small, dif_pos capital, dif_neg other]
    apply Char.ext
    apply UInt32.toNat_inj.mp
    simp only [UInt32.toNat_add, code, down]
    omega
  · unfold Char.toUpper
    rw [dif_neg small]

/-- A text in capitals. -/
def capitals (text : String) : String := String.ofList (text.toList.map Char.toUpper)

/-- A text in capitals is the same name. -/
@[simp] theorem fold_capitals (text : String) : Text.fold (capitals text) = Text.fold text := by
  have letters : Char.toLower ∘ Char.toUpper = Char.toLower := funext toLower_toUpper
  rw [Text.fold, capitals, String.toList_ofList, List.map_map, letters, Text.fold]

/-- A map of tags with its keys in capitals. -/
def Tags.shouted (tags : Tags) : Tags := tags.map fun tag => (capitals tag.1, tag.2)

/-- An entry of a machine with its group, its type and the keys of its tags in capitals. -/
def Machine.shouted (machine : Machine) : Machine :=
  { machine with
    group := capitals machine.group
    typeName := capitals machine.typeName
    tags := machine.tags.shouted }

/-- An entry of a group with its name and the keys of its tags in capitals. -/
def ResourceGroup.shouted (group : ResourceGroup) : ResourceGroup :=
  ⟨capitals group.name, group.tags.shouted⟩

/-- Capitals are another spelling of the keys of tags. -/
theorem Tags.respells_shouted {tags : Tags} (distinct : (tags.folded.map Prod.fst).Nodup) :
    tags.Respells tags.shouted := by
  have same : Tags.folded tags.shouted = tags.folded := by simp [folded, shouted]
  exact ⟨by rw [same], distinct⟩

/-- Capitals are another spelling of machines. -/
theorem Machine.respells_shouted {machines : List Machine}
    (distinct : ∀ machine ∈ machines, (machine.tags.folded.map Prod.fst).Nodup) :
    List.Forall₂ Machine.Respells machines (machines.map Machine.shouted) := by
  refine List.forall₂_map_right_iff.mpr (List.forall₂_same.mpr fun machine present => ?_)
  exact ⟨rfl, rfl, (fold_capitals _).symm, (fold_capitals _).symm,
    Tags.respells_shouted (distinct machine present)⟩

/-- Capitals are another spelling of groups. -/
theorem ResourceGroup.respells_shouted {groups : List ResourceGroup}
    (distinct : ∀ group ∈ groups, (group.tags.folded.map Prod.fst).Nodup) :
    List.Forall₂ ResourceGroup.Respells groups (groups.map ResourceGroup.shouted) := by
  refine List.forall₂_map_right_iff.mpr (List.forall₂_same.mpr fun group present => ?_)
  exact ⟨(fold_capitals _).symm, Tags.respells_shouted (distinct group present)⟩

/-! ## Listings of inventories in another case -/

/-- Two answers: one failure, or results that correspond. -/
inductive AnswersAlike (related : α → β → Prop) : Except ε α → Except ε β → Prop where
  /-- One failure. -/
  | failed (error : ε) : AnswersAlike related (.error error) (.error error)
  /-- Results that correspond. -/
  | answered {first : α} {second : β} (pair : related first second) :
    AnswersAlike related (.ok first) (.ok second)

/-- Two calls that are answered at the same time with what corresponds. -/
structure Sent.Corresponds (related : α → β → Prop) (left : Sent σ α) (right : Sent σ β) :
    Prop where
  /-- Making them does the same. -/
  world : left.world = right.world
  /-- They take as long. -/
  duration : left.duration = right.duration
  /-- The answers correspond. -/
  answer : ∀ later, related (left.settle later).1 (right.settle later).1
  /-- Answering them does the same. -/
  settled : ∀ later, (left.settle later).2 = (right.settle later).2

/-- Two pages with items that correspond, which name one next page. -/
structure Page.Corresponds (related : α → α → Prop) (left right : Page κ α) : Prop where
  /-- Items that correspond. -/
  items : List.Forall₂ related left.items right.items
  /-- One next page. -/
  next : left.next = right.next

/-- Two listings that end alike, with items that correspond. -/
inductive ListingEnd.Corresponds (related : α → α → Prop) :
    ListingEnd α → ListingEnd α → Prop where
  /-- With all items. -/
  | complete {items others : List α} (paired : List.Forall₂ related items others) :
    Corresponds related (.complete items) (.complete others)
  /-- With one failure. -/
  | failed (error : ApiError) : Corresponds related (.failed error) (.failed error)
  /-- At the limit. -/
  | cut : Corresponds related .cut .cut

/-- Two timelines with one outside and one time; what was reported may differ. -/
structure Timeline.SameTime (left right : Timeline σ) : Prop where
  /-- One outside. -/
  world : left.world = right.world
  /-- One time. -/
  clock : left.clock = right.clock

/-- Calls that correspond are awaited alike. -/
theorem Timeline.SameTime.await? {related : α → β → Prop} {left right : Timeline σ}
    (same : left.SameTime right) {sent : Sent σ α} {other : Sent σ β}
    (calls : sent.Corresponds related other) (limit : Option Nat) :
    Option.Rel related (left.await? limit sent).1 (right.await? limit other).1 ∧
      (left.await? limit sent).2.SameTime (right.await? limit other).2 := by
  have due : right.clock + other.duration = left.clock + sent.duration := by
    rw [same.clock, calls.duration]
  have settled : (sent.settle sent.world).2 = (other.settle other.world).2 := by
    rw [calls.settled, calls.world]
  have answer : related (sent.settle sent.world).1 (other.settle other.world).1 := by
    rw [← calls.world]
    exact calls.answer sent.world
  cases limit with
  | none =>
    simp only [Timeline.await?, due]
    exact ⟨.some answer, settled, rfl⟩
  | some limit =>
    by_cases late : limit < left.clock + sent.duration
    · simp only [Timeline.await?, due, if_pos late]
      exact ⟨.none, calls.world, rfl⟩
    · simp only [Timeline.await?, due, if_neg late]
      exact ⟨.some answer, settled, rfl⟩

/-- Listings by pages that correspond end alike. -/
theorem listPages_corresponds {related : α → α → Prop}
    {ask again : κ → σ → Sent σ (Except ApiError (Page κ α))}
    (asked : ∀ cursor world, (ask cursor world).Corresponds
      (AnswersAlike (Page.Corresponds related)) (again cursor world))
    (limit : Option Nat) (pages : Nat) (cursor : κ) {found others : List α}
    (paired : List.Forall₂ related found others) {left right : Timeline σ}
    (same : left.SameTime right) :
    (listPages limit ask pages cursor found left).1.Corresponds related
        (listPages limit again pages cursor others right).1 ∧
      (listPages limit ask pages cursor found left).2.SameTime
        (listPages limit again pages cursor others right).2 := by
  induction pages generalizing cursor found others left right with
  | zero => exact ⟨.cut, same⟩
  | succ pages hypothesis =>
    have calls : (ask cursor left.world).Corresponds (AnswersAlike (Page.Corresponds related))
        (again cursor right.world) := by
      rw [same.world]
      exact asked cursor right.world
    have awaited := same.await? calls limit
    rw [listPages, listPages]
    generalize left.await? limit (ask cursor left.world) = first at awaited ⊢
    generalize right.await? limit (again cursor right.world) = second at awaited ⊢
    obtain ⟨first, line⟩ := first
    obtain ⟨second, other⟩ := second
    obtain ⟨answers, lines⟩ := awaited
    cases answers with
    | none => exact ⟨.cut, lines⟩
    | some answers =>
      cases answers with
      | failed error => exact ⟨.failed error, lines⟩
      | @answered page also pair =>
        have more := List.rel_append paired pair.items
        simp only [pair.next]
        cases also.next with
        | none => exact ⟨.complete more, lines⟩
        | some next => exact hypothesis next more lines

/-- Listings from one first page on, by pages that correspond, end alike. -/
theorem listAll_corresponds {related : α → α → Prop}
    {ask again : κ → σ → Sent σ (Except ApiError (Page κ α))}
    (asked : ∀ cursor world, (ask cursor world).Corresponds
      (AnswersAlike (Page.Corresponds related)) (again cursor world))
    (limit : Option Nat) (pages : Nat) (first : Except ApiError κ) {left right : Timeline σ}
    (same : left.SameTime right) :
    (listAll limit ask pages first left).1.Corresponds related
        (listAll limit again pages first right).1 ∧
      (listAll limit ask pages first left).2.SameTime
        (listAll limit again pages first right).2 := by
  cases first with
  | error error => exact ⟨.failed error, same⟩
  | ok cursor => exact listPages_corresponds asked limit pages cursor .nil same

/-- Two control planes that list one inventory in two spellings, each for its key of the schedule
tag, and make the same power calls. -/
structure ControlPlane.Respells (left right : ControlPlane σ κ) (tagKey otherKey : String) :
    Prop where
  /-- The listing of machines begins at one place. -/
  machinesFrom : left.machinesFrom = right.machinesFrom
  /-- The listing of groups begins at one place. -/
  groupsFrom : left.groupsFrom = right.groupsFrom
  /-- Pages of machines in two spellings. -/
  machinePage : ∀ cursor world, (left.machinePage cursor world).Corresponds
    (AnswersAlike (Page.Corresponds Machine.Respells)) (right.machinePage cursor world)
  /-- Pages of groups in two spellings. -/
  groupPage : ∀ cursor world, (left.groupPage tagKey cursor world).Corresponds
    (AnswersAlike (Page.Corresponds ResourceGroup.Respells)) (right.groupPage otherKey cursor world)
  /-- Reads go alike. -/
  power : ∀ {machine other : Machine} (kind : ResourceKind), machine.Respells other →
    left.power kind machine = right.power kind other
  /-- Changes of power go alike. -/
  act : ∀ {machine other : Machine} (action : PowerAction) (kind : ResourceKind),
    machine.Respells other → left.act action kind machine = right.act action kind other
  /-- The same families of machines can be controlled. -/
  controls : left.controls = right.controls

/-! ## Control planes with an inventory in another case -/

/-- Groups in two spellings are left out of a listing alike. -/
theorem filter_carries_respelled {groups others : List ResourceGroup}
    (paired : List.Forall₂ ResourceGroup.Respells groups others)
    (named : Text.fold tagKey = Text.fold otherKey) (all : Bool) :
    List.Forall₂ ResourceGroup.Respells
      (groups.filter fun group => all || (group.tags.value? tagKey).isSome)
      (others.filter fun group => all || (group.tags.value? otherKey).isSome) := by
  refine List.rel_filter ?_ paired
  intro group other pair
  have carried : (group.tags.value? tagKey).isSome = (other.tags.value? otherKey).isSome :=
    pair.carries_eq named
  simp only [carried]

namespace MemoryPlane

/-- Two control planes in memory differ in the spelling of their inventory only. -/
structure Respells (left right : MemoryPlane) : Prop where
  /-- The same machines in the same order. -/
  machines : List.Forall₂ Machine.Respells left.machines right.machines
  /-- The same groups in the same order. -/
  groups : List.Forall₂ ResourceGroup.Respells left.groups right.groups
  /-- Nothing else differs. -/
  rest : { left with machines := right.machines, groups := right.groups } = right

/-- They list the groups for a tag in two spellings. -/
theorem Respells.listedGroups {left right : MemoryPlane} (same : left.Respells right)
    (named : Text.fold tagKey = Text.fold otherKey) :
    List.Forall₂ ResourceGroup.Respells (left.listedGroups tagKey)
      (right.listedGroups otherKey) := by
  have unfiltered : right.unfilteredGroups = left.unfilteredGroups := by rw [← same.rest]
  rw [MemoryPlane.listedGroups, MemoryPlane.listedGroups, unfiltered]
  exact filter_carries_respelled same.groups named left.unfilteredGroups

/-- A page in two spellings is asked for alike. -/
theorem onePage_corresponds {related : α → α → Prop} {items others : List α}
    (paired : List.Forall₂ related items others) (delay : Nat) (error : Option ApiError)
    (cursor : Unit) (table : PowerTable) :
    (onePage delay error items cursor table).Corresponds (AnswersAlike (Page.Corresponds related))
      (onePage delay error others cursor table) := by
  refine ⟨rfl, rfl, fun later => ?_, fun later => rfl⟩
  cases error with
  | some error => exact .failed error
  | none => exact .answered ⟨paired, rfl⟩

/-- They are control planes in two spellings. -/
theorem Respells.plane {left right : MemoryPlane} (same : left.Respells right)
    (named : Text.fold tagKey = Text.fold otherKey) :
    left.plane.Respells right.plane tagKey otherKey := by
  have machines : ∀ memory : MemoryPlane, memory.plane.machinePage =
      onePage memory.inventoryDelay memory.machinesError memory.machines := fun _ => rfl
  have groups : ∀ (memory : MemoryPlane) (key : String), memory.plane.groupPage key =
      onePage 0 memory.groupsError (memory.listedGroups key) := fun _ _ => rfl
  have machinesError : right.machinesError = left.machinesError := by rw [← same.rest]
  have groupsError : right.groupsError = left.groupsError := by rw [← same.rest]
  have delay : right.inventoryDelay = left.inventoryDelay := by rw [← same.rest]
  have behaviour : right.behaviour = left.behaviour := by rw [← same.rest]
  have controls : left.controls = right.controls := by rw [← same.rest]
  exact {
    machinesFrom := rfl
    groupsFrom := rfl
    machinePage := by
      rw [machines, machines, delay, machinesError]
      exact onePage_corresponds same.machines _ _
    groupPage := by
      rw [groups, groups, groupsError]
      exact onePage_corresponds (same.listedGroups named) _ _
    power := fun kind pair => by
      funext table
      simp only [MemoryPlane.plane, readNow, pair.id, behaviour]
    act := fun action kind pair => by
      funext table
      simp only [MemoryPlane.plane, actNow, pair.id, behaviour]
    controls := controls }

end MemoryPlane

namespace Manager

/-- Pages in two spellings are the same pages without the groups that do not carry the tag. -/
theorem Service.tagged_respelled {pages others : Except ApiError (Page Url ResourceGroup)}
    (paired : AnswersAlike (Page.Corresponds ResourceGroup.Respells) pages others)
    (named : Text.fold tagKey = Text.fold otherKey) :
    AnswersAlike (Page.Corresponds ResourceGroup.Respells) (pages.map (tagged tagKey))
      (others.map (tagged otherKey)) := by
  cases paired with
  | failed error => exact .failed error
  | answered pair =>
    have items := filter_carries_respelled pair.items named false
    simp only [Bool.false_or] at items
    exact .answered ⟨items, pair.next⟩

/-- A read looks at the id and the name of a machine. -/
theorem Service.power_respelled (service : Service σ) {machine other : Machine}
    (kind : ResourceKind) (pair : machine.Respells other) :
    service.power kind machine = service.power kind other := by
  funext wire
  rw [power, power, pair.id, pair.name]

/-- So does a change of power. -/
theorem Service.act_respelled (service : Service σ) {machine other : Machine}
    (action : PowerAction) (kind : ResourceKind) (pair : machine.Respells other) :
    service.act action kind machine = service.act action kind other := by
  funext wire
  rw [act, act, pair.id, pair.name]

/-- Two resource managers list one inventory in two spellings and answer power calls alike. -/
structure Service.Respells (left right : Service σ) : Prop where
  /-- One account. -/
  account : left.account = right.account
  /-- Pages of machines in two spellings. -/
  machines : ∀ url wire, (left.page "list virtual machines" machine? url wire).Corresponds
    (AnswersAlike (Page.Corresponds Machine.Respells))
    (right.page "list virtual machines" machine? url wire)
  /-- Pages of groups in two spellings, with and without the tag. -/
  groups : ∀ url wire, (left.page "list resource groups" group? url wire).Corresponds
    (AnswersAlike (Page.Corresponds ResourceGroup.Respells))
    (right.page "list resource groups" group? url wire)
  /-- Reads go alike. -/
  power : left.power = right.power
  /-- Changes of power go alike. -/
  act : left.act = right.act

/-- They are control planes in two spellings. -/
theorem Service.Respells.plane {left right : Service σ} (same : left.Respells right)
    (named : Text.fold tagKey = Text.fold otherKey) :
    left.plane.Respells right.plane tagKey otherKey where
  machinesFrom := by rw [left.plane_machinesFrom, right.plane_machinesFrom, same.account]
  groupsFrom := by rw [left.plane_groupsFrom, right.plane_groupsFrom, same.account]
  machinePage := same.machines
  groupPage url wire := by
    obtain ⟨world, duration, answer, settled⟩ := same.groups url wire
    exact ⟨world, duration, fun later => tagged_respelled (answer later) named, settled⟩
  power kind pair := by
    rw [left.plane_power, right.plane_power, same.power]
    exact right.power_respelled kind pair
  act action kind pair := by
    rw [left.plane_act, right.plane_act, same.act]
    exact right.act_respelled action kind pair
  controls := rfl

end Manager

/-! ## Runs over inventories in another case -/

/-- The settings with another key of the schedule tag. -/
def RunSettings.withKey (settings : RunSettings) (tagKey : String) : RunSettings :=
  { settings with tagKey := tagKey }

/-- Two runs made the same decisions about machines in two spellings. -/
structure Run.SameDecisions (left right : Run σ) : Prop where
  /-- They end in the same way. -/
  result : left.result = right.result
  /-- The same machines have the same outcomes, in the same order. -/
  outcomes : List.Forall₂ (PairedResult Machine.Respells) left.outcomes right.outcomes
  /-- The same counters. -/
  stats : left.stats = right.stats
  /-- The same power calls were made on the same ids, in the same order and at the same times. -/
  calls : left.calls.map (fun call => (call.time, call.kind, call.machine.id)) =
    right.calls.map fun call => (call.time, call.kind, call.machine.id)
  /-- The same outside at the end, and so the same power states. -/
  world : left.line.world = right.line.world
  /-- They end at the same time. -/
  clock : left.line.clock = right.line.clock

namespace Run

variable {left right : ControlPlane σ κ} {settings : RunSettings}

/-- The inventory is listed alike. -/
theorem list_respelled (planes : left.Respells right settings.tagKey otherKey)
    (request : RunRequest) (world : σ) :
    AnswersAlike Inventory.Respells (list left settings request world).1
        (list right (settings.withKey otherKey) request world).1 ∧
      (list left settings request world).2.SameTime
        (list right (settings.withKey otherKey) request world).2 := by
  let limit := some (1000 * settings.limitSeconds)
  let line : Timeline σ := { world := world, log := opening request }
  have start : line.SameTime line := ⟨rfl, rfl⟩
  have machines := listAll_corresponds planes.machinePage limit settings.pages right.machinesFrom
    start
  simp only [list, RunSettings.withKey, planes.machinesFrom, planes.groupsFrom]
  generalize listAll limit left.machinePage settings.pages right.machinesFrom line = first
    at machines ⊢
  generalize listAll limit right.machinePage settings.pages right.machinesFrom line = second
    at machines ⊢
  obtain ⟨first, between⟩ := first
  obtain ⟨second, other⟩ := second
  obtain ⟨ends, lines⟩ := machines
  cases ends with
  | failed error => exact ⟨.failed _, lines⟩
  | cut => exact ⟨.failed _, lines⟩
  | complete found =>
    have groups := listAll_corresponds planes.groupPage limit settings.pages right.groupsFrom lines
    simp only
    generalize listAll limit (left.groupPage settings.tagKey) settings.pages right.groupsFrom
      between = first at groups ⊢
    generalize listAll limit (right.groupPage otherKey) settings.pages right.groupsFrom
      other = second at groups ⊢
    obtain ⟨first, later⟩ := first
    obtain ⟨second, also⟩ := second
    obtain ⟨ends, lines⟩ := groups
    cases ends with
    | failed error => exact ⟨.failed _, lines⟩
    | cut => exact ⟨.failed _, lines⟩
    | complete tagged => exact ⟨.answered ⟨found, tagged⟩, lines⟩

/-- Machines in two spellings are counterparts. -/
theorem counterparts (planes : left.Respells right settings.tagKey otherKey)
    (named : Text.fold settings.tagKey = Text.fold otherKey) {inventory other : Inventory}
    (same : inventory.Respells other) (request : RunRequest) :
    Counterparts Machine.Respells left right (settings.orders request inventory)
      ((settings.withKey otherKey).orders request other) where
  key pair := by rw [Machine.key, pair.id, Machine.key]
  brief pair := by
    have keys : Text.fold (settings.orders request inventory).tagKey =
        Text.fold ((settings.withKey otherKey).orders request other).tagKey := named
    have groups : (settings.orders request inventory).groups =
        ((settings.withKey otherKey).orders request other).groups :=
      GroupSchedules.ofGroups_respelled same.groups named
    have now : (settings.orders request inventory).now =
        ((settings.withKey otherKey).orders request other).now := rfl
    rw [planes.controls]
    exact pair.brief_eq keys groups now right.controls
  power := planes.power
  act := planes.act
  simulate := rfl
  width := rfl
  limit := rfl

/-- The fleet is swept alike. -/
theorem sweepFleet_respelled (planes : left.Respells right settings.tagKey otherKey)
    (named : Text.fold settings.tagKey = Text.fold otherKey) {inventory other : Inventory}
    (same : inventory.Respells other) (request : RunRequest) {line also : Timeline σ}
    (lines : line.SameTime also) :
    SameDecisions (sweepFleet left settings request inventory line)
      (sweepFleet right (settings.withKey otherKey) request other also) := by
  have ranks : ∀ machine other : Machine, machine.Respells other →
      machine.id = other.id ∧ machine.name = other.name := fun _ _ pair => ⟨pair.id, pair.name⟩
  have opening : Sweep.Paired Machine.Respells (opened settings inventory line)
      (opened (settings.withKey otherKey) other also) := {
    world := lines.world
    clock := lines.clock
    queue := roster_forall₂ ranks same.machines
    active := .nil
    taken := .nil
    acted := rfl
    waits := rfl
    calls := .nil
    answers := .nil }
  have swept := Sweep.Paired.run (counterparts planes named same request) opening
  have outcomes : ∀ results others : List (Machine × Outcome),
      List.Forall₂ (PairedResult Machine.Respells) results others →
        results.map Prod.snd = others.map Prod.snd := by
    intro results others pairs
    rw [← List.forall₂_eq_eq_eq, List.forall₂_map_left_iff, List.forall₂_map_right_iff]
    exact pairs.imp fun _ _ pair => pair.outcome
  constructor
  · rw [sweepFleet, sweepFleet, swept.isComplete_eq]
    rfl
  · exact swept.taken
  · rw [stats, stats]
    exact congrArg RunStats.ofOutcomes (outcomes _ _ swept.taken)
  · rw [← List.forall₂_eq_eq_eq, List.forall₂_map_left_iff, List.forall₂_map_right_iff]
    refine swept.calls.imp fun _ _ pair => ?_
    rw [pair.time, pair.kind, pair.machine.id]
  · exact swept.world
  · exact swept.clock

end Run

/-- Spelling the names of the platform in another case, in the inventory and in the settings,
changes nothing that a run decides. -/
theorem letter_case_never_decides {left right : ControlPlane σ κ} {settings : RunSettings}
    (planes : left.Respells right settings.tagKey otherKey)
    (named : Text.fold settings.tagKey = Text.fold otherKey) (request : RunRequest) (world : σ) :
    Run.SameDecisions (Run.conduct left settings request world)
      (Run.conduct right (settings.withKey otherKey) request world) := by
  have listings := Run.list_respelled planes request world
  rw [Run.conduct, Run.conduct]
  generalize Run.list left settings request world = first at listings ⊢
  generalize Run.list right (settings.withKey otherKey) request world = second at listings ⊢
  obtain ⟨first, line⟩ := first
  obtain ⟨second, also⟩ := second
  obtain ⟨ends, lines⟩ := listings
  cases ends with
  | failed error =>
    exact {
      result := rfl
      outcomes := .nil
      stats := rfl
      calls := rfl
      world := lines.world
      clock := lines.clock }
  | answered same => exact Run.sweepFleet_respelled planes named same request lines

/-- The Monday fleet with the names of the platform in capitals. -/
def shoutedPlane : MemoryPlane :=
  { mondayPlane with
    machines := mondayPlane.machines.map Machine.shouted
    groups := mondayPlane.groups.map ResourceGroup.shouted }

/-- The Monday fleet is handled alike when the names of the platform are in capitals. -/
theorem letter_case_never_decides_shouted :
    mondayPlane.plane.Respells shoutedPlane.plane mondaySettings.tagKey "OFF" ∧
      Text.fold mondaySettings.tagKey = Text.fold "OFF" ∧
      Run.SameDecisions (Run.conduct mondayPlane.plane mondaySettings mondayRequest mondayPowers)
        (Run.conduct shoutedPlane.plane (mondaySettings.withKey "OFF") mondayRequest
          mondayPowers) := by
  have machines : ∀ machine ∈ mondayPlane.machines,
      (machine.tags.folded.map Prod.fst).Nodup := by decide +kernel
  have groups : ∀ group ∈ mondayPlane.groups,
      (group.tags.folded.map Prod.fst).Nodup := by decide +kernel
  have named : Text.fold mondaySettings.tagKey = Text.fold "OFF" := by decide +kernel
  have spelled : mondayPlane.Respells shoutedPlane :=
    ⟨Machine.respells_shouted machines, ResourceGroup.respells_shouted groups, rfl⟩
  have planes := spelled.plane named
  exact ⟨planes, named, letter_case_never_decides planes named mondayRequest mondayPowers⟩

end OffHours
