import OffHours.Notice.Mail
import OffHours.Notice.Webhook
import OffHours.Settings.Override

/-!
# The channels of the settings

The channels that settings ask for: a web service unless its address is blank, and mail. With
none of them messages are dropped, otherwise they go to all.
-/

namespace OffHours

open Http

/-- The ways out of the program. -/
structure Outlets (σ : Type) where
  /-- The servers that requests go to. -/
  server : Server σ
  /-- The way of mail. -/
  relay : MailRelay (Wire σ)
  /-- The variables of the environment. -/
  environment : Environment
  /-- When messages are sent. -/
  time : String

namespace Outlets

variable {σ : Type}

/-- The variable with the name for the mail server. -/
def mailName : String := "SMTP_USERNAME"

/-- The variable with the password for the mail server. -/
def mailPassword : String := "SMTP_PASSWORD"

/-- Name and password for the mail server, when both are there. -/
def login? (outlets : Outlets σ) : Option (String × String) := do
  return (← outlets.environment mailName, ← outlets.environment mailPassword)

/-- The web service at an address. -/
def webhook (outlets : Outlets σ) (address : String) : Webhook :=
  { address, host := (outlets.environment Environment.host).getD "unknown", time := outlets.time }

/-- The channel to a web service, if one is asked for, and the report of it. -/
def webChannel (outlets : Outlets σ) (settings : NoticeSettings) : List (Notifier (Wire σ)) × Log :=
  match settings.webhook.filter fun address => !Text.allBlank address with
  | none => ([], [])
  | some address =>
    ([(outlets.webhook address).notifier outlets.server],
      Log.info "Failure notifications enabled via webhook")

/-- The channel for mail. -/
def mailNotifier (outlets : Outlets σ) (settings : MailSettings) :
    Except NotifyError (Notifier (Wire σ)) := do
  return (← MailRoute.ofSettings settings).notifier outlets.relay settings outlets.login?

/-- The channel for mail, if one is asked for, and the report of it. -/
def mailChannel (outlets : Outlets σ) (settings : NoticeSettings) :
    Except NotifyError (List (Notifier (Wire σ)) × Log) :=
  match settings.mail with
  | none => .ok ([], [])
  | some mail => do
    let channel ← outlets.mailNotifier mail
    return ([channel], Log.info ("Failure notifications enabled via email to " ++
      toString mail.recipients.length ++ " recipient(s)"))

/-- The channel for all messages, and the reports of setting it up. -/
def channel (outlets : Outlets σ) (settings : NoticeSettings) :
    Except NotifyError (Notifier (Wire σ)) × Log :=
  let (web, log) := outlets.webChannel settings
  match outlets.mailChannel settings with
  | .error error => (.error error, log)
  | .ok (mail, later) =>
    if (web ++ mail).isEmpty then
      (.ok .noop, Log.warn "No notification channel configured, failures will only be logged")
    else (.ok (.fanout (web ++ mail)), log ++ later)

end Outlets

end OffHours
