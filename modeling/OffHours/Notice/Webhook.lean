import OffHours.Http.Exchange
import OffHours.Http.Status
import OffHours.Notice.Notifier
import OffHours.Url.Parser

/-!
# Messages to a web service

A message goes to a web service as one request with data: when it is sent, from which host, and
what it says. Every status of success counts as delivered.
-/

namespace OffHours

open Http

/-- A web service that takes messages. -/
structure Webhook where
  /-- Its address, as written. -/
  address : String
  /-- The host that the messages come from. -/
  host : String
  /-- When the messages are sent. -/
  time : String
  deriving DecidableEq, Repr

namespace Webhook

/-- Milliseconds until a delivery is given up. -/
def timeout : Nat := 10000

/-- The data of a message. -/
def body (webhook : Webhook) (message : String) : Value :=
  .table [("timestamp", .text webhook.time), ("source", .text "autoshutdown"),
    ("host", .text webhook.host), ("message", .text message)]

/-- Send a message; the answer is awaited. -/
def post {σ : Type} (server : Server σ) (webhook : Webhook) (message : String) (wire : Wire σ) :
    Except SendFault Answer × Wire σ :=
  match Url.parse webhook.address with
  | .error _ => (.error .malformed, wire)
  | .ok url =>
    let request : Request := { method := .post, url, body := some (webhook.body message) }
    let sent := Client.send ⟨server, timeout⟩ request wire
    sent.settle sent.world

/-- The result of a delivery, and its report. -/
def judge (webhook : Webhook) : Except SendFault Answer → Except NotifyError Unit × Log
  | .error fault => (.error (.http fault.message), Log.warn ("Failed to send alert: " ++ fault.message))
  | .ok answer =>
    if isSuccess answer.status then
      (.ok (), Log.info ("Alert sent successfully to " ++ webhook.address))
    else
      (.error (.status answer.status),
        Log.warn ("Alert webhook returned status: " ++ statusText answer.status))

/-- The channel to a web service. -/
def notifier {σ : Type} (server : Server σ) (webhook : Webhook) : Notifier (Wire σ) where
  name := "webhook"
  deliver message wire :=
    let (answer, wire) := webhook.post server message wire
    let (result, log) := webhook.judge answer
    ⟨result, log, wire⟩

end Webhook

end OffHours
