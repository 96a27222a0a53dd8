import OffHours.Log

/-!
# Notification channels

Where the message about a failed run goes. Delivery is best effort: its failure is reported
and changes nothing else. A channel is given by what a delivery does to the state `σ` of the
outside.
-/

namespace OffHours

/-- Why a message was not delivered. -/
inductive NotifyError where
  /-- The request failed. -/
  | http (reason : String)
  /-- The receiver answered with a status that is no success. -/
  | status (code : Nat)
  /-- No answer came in time. -/
  | timeout
  /-- The mail was not accepted. -/
  | smtp (reason : String)
  /-- The channel cannot be set up. -/
  | config (reason : String)
  deriving DecidableEq, Repr

/-- The text of a failed delivery. -/
def NotifyError.message : NotifyError → String
  | http reason => "HTTP request failed: " ++ reason
  | status code => "Webhook returned status " ++ toString code
  | timeout => "Delivery timed out"
  | smtp reason => "SMTP delivery failed: " ++ reason
  | config reason => "Configuration error: " ++ reason

/-- The result of a delivery. -/
structure Delivery (σ : Type) where
  /-- Whether the message was delivered. -/
  result : Except NotifyError Unit
  /-- What was reported. -/
  log : Log
  /-- The outside after the delivery. -/
  world : σ

/-- A notification channel. -/
structure Notifier (σ : Type) where
  /-- The name of the channel in reports. -/
  name : String
  /-- Deliver a message. -/
  deliver : String → σ → Delivery σ

namespace Notifier

variable {σ : Type}

/-- The channel that drops every message. -/
def noop : Notifier σ where
  name := "noop"
  deliver message world :=
    ⟨.ok (), Log.debug ("No notification channel configured, dropping: " ++ message), world⟩

/-- Deliver a message over each channel in turn, and report the deliveries that fail. -/
def deliverAll (message : String) : List (Notifier σ) → σ → Log × σ
  | [], world => ([], world)
  | channel :: rest, world =>
    let delivery := channel.deliver message world
    let failure :=
      match delivery.result with
      | .ok () => []
      | .error error =>
        Log.warn ("Notification via " ++ channel.name ++ " failed: " ++ error.message)
    let (log, world) := deliverAll message rest delivery.world
    (delivery.log ++ failure ++ log, world)

/-- The channel that delivers over every one of a list of channels. -/
def fanout (channels : List (Notifier σ)) : Notifier σ where
  name := "fanout"
  deliver message world :=
    let (log, world) := deliverAll message channels world
    ⟨.ok (), log, world⟩

end Notifier

/-- What a recording channel has received, oldest first. -/
abbrev Mailbag := List String

/-- A channel that records what it receives and then succeeds or fails by a fixed rule. -/
def Notifier.recorder (name : String) (failure : Option NotifyError) : Notifier Mailbag where
  name := name
  deliver message received :=
    ⟨match failure with
      | some error => .error error
      | none => .ok (), [], received ++ [message]⟩

end OffHours
