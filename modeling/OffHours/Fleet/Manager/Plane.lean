import OffHours.Fleet.Manager.Address
import OffHours.Fleet.Manager.Document
import OffHours.Http.Exchange
import OffHours.Http.Status
import OffHours.Json.Reader
import OffHours.Settings.Secret
import OffHours.Text.Blank

/-!
# The control plane of the resource manager

Every call of the control plane is one request with the access token. Its answer is a result
only when the status is one of success and the body can be read; all else is a classified
failure.
-/

namespace OffHours.Manager

open Http

/-- A call in the words of its reports. -/
structure Call where
  /-- What is attempted. -/
  operation : String
  /-- On what it is attempted. -/
  target : String
  deriving DecidableEq, Repr

namespace Call

/-- A failure of the call. -/
def failure (call : Call) (errorClass : ErrorClass) (reason : String) : ApiError :=
  ⟨errorClass, call.operation, call.target, reason⟩

/-- The class of a failure that may pass or not. -/
def classOf (passing : Bool) : ErrorClass := if passing then .transient else .permanent

/-- The answer of a request, when its status is one of success. -/
def check (call : Call) : Except SendFault Answer → Except ApiError Answer
  | .error fault => .error (call.failure (classOf fault.isPassing) fault.message)
  | .ok answer =>
    if isSuccess answer.status then .ok answer
    else
      let reason :=
        "status " ++ statusText answer.status ++ ": " ++ Text.trim (answer.body.getD "")
      .error (call.failure (classOf (Http.isPassing answer.status)) reason)

/-- What the body of an answer holds. -/
def decode {α : Type} (call : Call) (reader : Value → Option α)
    (result : Except SendFault Answer) : Except ApiError α := do
  let answer ← call.check result
  match (answer.body.bind Json.read?).bind reader with
  | some found => .ok found
  | none => .error (call.failure .decode "error decoding response body")

end Call

/-- The resource manager as a server that is asked with an account and a token. -/
structure Service (σ : Type) where
  /-- Who sends the requests. -/
  client : Client σ
  /-- The account. -/
  account : Account
  /-- The token. -/
  token : AccessToken

namespace Service

variable {σ α : Type}

/-- A request with the token. -/
def request (service : Service σ) (method : Method) (url : Url) : Request :=
  { method, url, authorization := some ("Bearer " ++ service.token.secret) }

/-- The report of a request that is about to be made. -/
def requestText (method : Method) (url : Url) (operation : String) : String :=
  method.name ++ " " ++ url.pathText ++ " (" ++ operation ++ ")"

/-- Read what stands at an address. -/
def read (service : Service σ) (call : Call) (reader : Value → Option α) (url : Url)
    (wire : Wire σ) : Sent (Wire σ) (Except ApiError α) :=
  ((service.client.send (service.request .get url) wire).map (call.decode reader)).reported
    (Log.debug (requestText .get url call.operation))

/-- Ask for an action at an address; the body of the answer is of no interest. -/
def order (service : Service σ) (call : Call) (url : Url) (wire : Wire σ) :
    Sent (Wire σ) (Except ApiError Unit) :=
  ((service.client.send (service.request .post url) wire).map
    fun result => (call.check result).map fun _ => ()).reported
      (Log.info (requestText .post url call.operation))

/-- The page that was listed, with the address of the next one. -/
def follow (call : Call) (listed : ListedPage α) : Except ApiError (Page Url α) :=
  match listed.next.map Url.parse with
  | none => .ok ⟨listed.items, none⟩
  | some (.ok next) => .ok ⟨listed.items, some next⟩
  | some (.error fault) => .error (call.failure .decode fault.message)

/-- Ask for a page of a listing. -/
def page (service : Service σ) (operation : String) (item : Value → Option α) (url : Url)
    (wire : Wire σ) : Sent (Wire σ) (Except ApiError (Page Url α)) :=
  let call : Call := ⟨operation, service.account.subscription⟩
  (service.read call (page? item) url wire).map fun result => result.bind (follow call)

/-- A page with the groups that carry a tag. -/
def tagged (tagKey : String) (page : Page Url ResourceGroup) : Page Url ResourceGroup :=
  { page with items := page.items.filter fun group => (group.tags.value? tagKey).isSome }

/-- Make a call at an address, when there is one. -/
def whenKnown (address : Except ApiError Url) (wire : Wire σ)
    (make : Url → Sent (Wire σ) (Except ApiError α)) : Sent (Wire σ) (Except ApiError α) :=
  match address with
  | .ok url => make url
  | .error error => .refused wire (.error error)

/-- Ask for the power state of a machine. -/
def power (service : Service σ) (kind : ResourceKind) (machine : Machine) (wire : Wire σ) :
    Sent (Wire σ) (Except ApiError PowerState) :=
  whenKnown (service.account.resource kind machine.id (Account.powerView kind)) wire fun url =>
    service.read ⟨"read power state", machine.name⟩ (power? kind) url wire

/-- Ask for a change of power. -/
def act (service : Service σ) (action : PowerAction) (kind : ResourceKind) (machine : Machine)
    (wire : Wire σ) : Sent (Wire σ) (Except ApiError Unit) :=
  let name := Account.actionName kind action
  whenKnown (service.account.resource kind machine.id (some name)) wire fun url =>
    service.order ⟨name, machine.name⟩ url wire

/-- The control plane. -/
def plane (service : Service σ) : ControlPlane (Wire σ) Url where
  machinesFrom := service.account.machinesFrom
  groupsFrom := service.account.groupsFrom
  machinePage := service.page "list virtual machines" machine?
  groupPage tagKey url wire :=
    (service.page "list resource groups" group? url wire).map (Except.map (tagged tagKey))
  power := service.power
  act := service.act
  controls _ := true

end Service

end OffHours.Manager
