import Mathlib.Data.List.Nodup
import OffHours.Notice.Notifier

/-!
# Messages over several channels

The channel that delivers over several ones hands every message to each of them, whether or not
others fail. What a channel is handed is told by watching it: `Notifier.watched` keeps a record of
each delivery beside the outside, and changes nothing else (`deliverAll_watched`). One message goes
over the channels in their order, and so do messages one after another: `delivers_to_all`.
-/

namespace OffHours

variable {σ : Type}

/-! ## Series of messages -/

/-- What comes of some messages. -/
structure Deliveries (σ : Type) where
  /-- The result of each, in order. -/
  results : List (Except NotifyError Unit)
  /-- What was reported. -/
  log : Log
  /-- The outside after them. -/
  world : σ

/-- Messages are delivered over a channel one after the other. -/
def Notifier.deliverEach (notifier : Notifier σ) : List String → σ → Deliveries σ
  | [], world => ⟨[], [], world⟩
  | message :: rest, world =>
    let delivery := notifier.deliver message world
    let later := notifier.deliverEach rest delivery.world
    ⟨delivery.result :: later.results, delivery.log ++ later.log, later.world⟩

/-! ## Watched channels -/

/-- A message that was handed to a channel of a list, and what the channel made of it. -/
structure Handover where
  /-- The place of the channel in the list. -/
  entry : Nat
  /-- The message. -/
  message : String
  /-- The name of the channel. -/
  name : String
  /-- The result of the delivery. -/
  result : Except NotifyError Unit
  /-- What the channel reported. -/
  log : Log

namespace Handover

/-- The warning about a delivery, if it failed. -/
def warning (handover : Handover) : Log :=
  match handover.result with
  | .ok () => []
  | .error error =>
    Log.warn ("Notification via " ++ handover.name ++ " failed: " ++ error.message)

/-- The reports of a delivery and about it. -/
def reports (handover : Handover) : Log := handover.log ++ handover.warning

/-- It is the channel at its place among some channels that made this of the message. -/
def IsOf (handover : Handover) (channels : List (Notifier σ)) : Prop :=
  ∃ channel before, channels[handover.entry]? = some channel ∧ handover.name = channel.name ∧
    handover.result = (channel.deliver handover.message before).result ∧
    handover.log = (channel.deliver handover.message before).log

end Handover

namespace Notifier

/-- A channel at a place of a list is handed a message. -/
def handover (channel : Notifier σ) (entry : Nat) (message : String) (world : σ) : Handover :=
  let delivery := channel.deliver message world
  ⟨entry, message, channel.name, delivery.result, delivery.log⟩

/-- A channel that keeps what it is handed, as the channel at a place of a list. -/
def watched (channel : Notifier σ) (entry : Nat) : Notifier (σ × List Handover) where
  name := channel.name
  deliver message world :=
    let delivery := channel.deliver message world.1
    ⟨delivery.result, delivery.log,
      (delivery.world, world.2 ++ [channel.handover entry message world.1])⟩

/-- Channels from a place on, each of them watched. -/
def watchedFrom (entry : Nat) : List (Notifier σ) → List (Notifier (σ × List Handover))
  | [] => []
  | channel :: rest => channel.watched entry :: watchedFrom (entry + 1) rest

/-! ## One message -/

/-- What the channels from a place on are handed with a message. -/
def handoversOf (message : String) : Nat → List (Notifier σ) → σ → List Handover
  | _, [], _ => []
  | entry, channel :: rest, world =>
    channel.handover entry message world ::
      handoversOf message (entry + 1) rest (channel.deliver message world).world

section Message

variable (message : String) (entry : Nat) (channels : List (Notifier σ)) (world : σ)

/-- Watching changes nothing about a message, and keeps what the channels are handed. -/
theorem deliverAll_watched (past : List Handover) :
    deliverAll message (watchedFrom entry channels) (world, past) =
      ((deliverAll message channels world).1, (deliverAll message channels world).2,
        past ++ handoversOf message entry channels world) := by
  induction channels generalizing entry world past with
  | nil => simp [watchedFrom, deliverAll, handoversOf]
  | cons channel rest hypothesis =>
    have others := hypothesis (entry + 1) (channel.deliver message world).world
      (past ++ [channel.handover entry message world])
    rw [List.append_assoc, List.singleton_append] at others
    simp only [watchedFrom, deliverAll, watched, others, handoversOf]

/-- A message goes to every channel in turn. -/
theorem handoversOf_order :
    (handoversOf message entry channels world).map (fun given => (given.message, given.entry)) =
      (List.range' entry channels.length).map (message, ·) := by
  induction channels generalizing entry world with
  | nil => rfl
  | cons channel rest hypothesis =>
    rw [handoversOf, List.map_cons, hypothesis, List.length_cons, List.range'_succ, List.map_cons]
    rfl

/-- A message is reported by each channel in turn, with a warning when it failed there. -/
theorem deliverAll_log :
    (deliverAll message channels world).1 =
      (handoversOf message entry channels world).flatMap Handover.reports := by
  induction channels generalizing entry world with
  | nil => rfl
  | cons channel rest hypothesis =>
    rw [deliverAll, handoversOf, List.flatMap_cons, ← hypothesis]
    rfl

/-- It is each channel itself that makes of the message what was kept. -/
theorem isOf_of_mem_handoversOf (front : List (Notifier σ)) {given : Handover}
    (place : entry = front.length) (kept : given ∈ handoversOf message entry channels world) :
    given.IsOf (front ++ channels) := by
  induction channels generalizing entry world front with
  | nil => cases kept
  | cons channel rest hypothesis =>
    rcases List.mem_cons.mp kept with rfl | later
    · refine ⟨channel, world, ?_, rfl, rfl, rfl⟩
      simp [handover, place]
    · have whole := hypothesis (entry + 1) _ (front ++ [channel]) (by simp [place]) later
      rwa [List.append_assoc, List.singleton_append] at whole

end Message

/-! ## Messages one after the other -/

/-- What the channels are handed with some messages. -/
def handovers (channels : List (Notifier σ)) : List String → σ → List Handover
  | [], _ => []
  | message :: rest, world =>
    handoversOf message 0 channels world ++
      handovers channels rest (deliverAll message channels world).2

/-- The channels of a list, each of them watched. -/
def watchedAll (channels : List (Notifier σ)) : List (Notifier (σ × List Handover)) :=
  watchedFrom 0 channels

section Messages

variable (channels : List (Notifier σ)) (messages : List String) (world : σ)

/-- Watching changes nothing about messages, and keeps what the channels are handed. -/
theorem deliverEach_watched (past : List Handover) :
    (fanout (watchedAll channels)).deliverEach messages (world, past) =
      ⟨((fanout channels).deliverEach messages world).results,
        ((fanout channels).deliverEach messages world).log,
        ((fanout channels).deliverEach messages world).world,
        past ++ handovers channels messages world⟩ := by
  induction messages generalizing world past with
  | nil => simp [deliverEach, handovers]
  | cons message rest hypothesis =>
    have first := deliverAll_watched message 0 channels world past
    have others := hypothesis (deliverAll message channels world).2
      (past ++ handoversOf message 0 channels world)
    rw [List.append_assoc] at others
    simp only [fanout, watchedAll] at others
    simp only [deliverEach, fanout, watchedAll, first, others, handovers]

/-- Each message counts as delivered. -/
theorem deliverEach_fanout_results :
    ((fanout channels).deliverEach messages world).results = messages.map fun _ => .ok () := by
  induction messages generalizing world with
  | nil => rfl
  | cons message rest hypothesis =>
    rw [deliverEach, List.map_cons, hypothesis]
    rfl

/-- Messages are reported one after the other, each by every channel in turn. -/
theorem deliverEach_fanout_log :
    ((fanout channels).deliverEach messages world).log =
      (handovers channels messages world).flatMap Handover.reports := by
  induction messages generalizing world with
  | nil => rfl
  | cons message rest hypothesis =>
    have later := hypothesis (deliverAll message channels world).2
    rw [handovers, List.flatMap_append, ← deliverAll_log, ← later]
    rfl

/-- Every message goes to all channels in turn before the next one does. -/
theorem handovers_order :
    (handovers channels messages world).map (fun given => (given.message, given.entry)) =
      messages.flatMap fun message => (List.range channels.length).map (message, ·) := by
  induction messages generalizing world with
  | nil => rfl
  | cons message rest hypothesis =>
    rw [handovers, List.map_append, handoversOf_order, hypothesis, List.flatMap_cons,
      List.range_eq_range']

/-- It is each channel itself that makes of the messages what was kept. -/
theorem isOf_of_mem_handovers {given : Handover}
    (kept : given ∈ handovers channels messages world) : given.IsOf channels := by
  induction messages generalizing world with
  | nil => cases kept
  | cons message rest hypothesis =>
    rcases List.mem_append.mp kept with now | later
    · exact isOf_of_mem_handoversOf message 0 channels world [] rfl now
    · exact hypothesis _ later

/-- What the channels of a list are handed with some messages, as they keep it themselves. -/
def handed : List Handover :=
  ((fanout (watchedAll channels)).deliverEach messages (world, [])).world.2

/-- The messages that the channel at a place is handed. -/
def received (entry : Nat) : List String :=
  ((handed channels messages world).filter (·.entry == entry)).map Handover.message

/-- What the channels keep is what they are handed. -/
theorem handed_eq_handovers :
    handed channels messages world = handovers channels messages world := by
  rw [handed, deliverEach_watched, List.nil_append]

/-- The channel at each place is handed all messages. -/
theorem received_eq {entry : Nat} (inside : entry < channels.length) :
    received channels messages world entry = messages := by
  have once (message : String) :
      ((List.range channels.length).map (message, ·)).filter (·.2 == entry) =
        [(message, entry)] := by
    have alone : (List.range channels.length).filter (· == entry) = [entry] := by
      rw [List.filter_beq, List.count_eq_one_of_mem List.nodup_range (List.mem_range.mpr inside)]
      rfl
    rw [List.filter_map]
    simpa [Function.comp_def] using congrArg (List.map (message, ·)) alone
  have pairs : received channels messages world entry =
      (((handovers channels messages world).map fun given => (given.message, given.entry)).filter
        (·.2 == entry)).map Prod.fst := by
    rw [received, handed_eq_handovers, List.filter_map, List.map_map]
    rfl
  rw [pairs, handovers_order, List.filter_flatMap, List.map_flatMap]
  simp [once]

end Messages

/-- Messages go to all channels of a list: however many of the deliveries fail, each channel is
handed every message once and in order. -/
structure DeliversToAll (channels : List (Notifier σ)) (messages : List String) (world : σ) :
    Prop where
  /-- Each message counts as delivered. -/
  results : ((fanout channels).deliverEach messages world).results = messages.map fun _ => .ok ()
  /-- That the channels are watched changes nothing. -/
  watched : (fanout (watchedAll channels)).deliverEach messages (world, []) =
    ⟨((fanout channels).deliverEach messages world).results,
      ((fanout channels).deliverEach messages world).log,
      ((fanout channels).deliverEach messages world).world, handed channels messages world⟩
  /-- It is each channel itself that makes of the messages what is kept. -/
  kept : ∀ given ∈ handed channels messages world, given.IsOf channels
  /-- Every message goes to all channels in turn before the next one does. -/
  order : (handed channels messages world).map (fun given => (given.message, given.entry)) =
    messages.flatMap fun message => (List.range channels.length).map (message, ·)
  /-- The channel at each place is handed all messages, once each and in order. -/
  each : ∀ entry < channels.length, received channels messages world entry = messages
  /-- It is handed what it would be handed alone. -/
  alone : ∀ entry channel, channels[entry]? = some channel →
    received channels messages world entry = received [channel] messages world 0
  /-- The log is what the channels report, with one warning behind each delivery that failed. -/
  log : ((fanout channels).deliverEach messages world).log =
    (handed channels messages world).flatMap Handover.reports

/-- Messages go to all channels. -/
theorem delivers_to_all (channels : List (Notifier σ)) (messages : List String) (world : σ) :
    DeliversToAll channels messages world where
  results := deliverEach_fanout_results channels messages world
  watched := by rw [handed_eq_handovers, deliverEach_watched, List.nil_append]
  kept given member := by
    rw [handed_eq_handovers] at member
    exact isOf_of_mem_handovers channels messages world member
  order := by rw [handed_eq_handovers, handovers_order]
  each entry inside := received_eq channels messages world inside
  alone entry channel found := by
    obtain ⟨inside, -⟩ := List.getElem?_eq_some_iff.mp found
    rw [received_eq channels messages world inside,
      received_eq [channel] messages world Nat.zero_lt_one]
  log := by rw [handed_eq_handovers, deliverEach_fanout_log]

/-- A channel that fails does not keep a message from the one behind it. -/
example : (handed [.recorder "webhook" (some .timeout), .recorder "email" none] ["a", "b"] []).map
    (fun given => (given.message, given.entry, given.warning.length)) =
      [("a", 0, 1), ("a", 1, 0), ("b", 0, 1), ("b", 1, 0)] := rfl

end Notifier

end OffHours
