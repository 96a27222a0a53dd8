import OffHours.Fleet.ApiError
import OffHours.Fleet.Machine
import OffHours.Fleet.PowerState
import OffHours.Url.Parser

/-!
# Addresses of the resource manager

Where the resource manager is asked about a subscription or a machine. Addresses are put
together from texts and read as a whole, so ids and names can move the parts of an address;
whatever cannot be read is a permanent failure.
-/

namespace OffHours.Manager

/-- What is asked of the resource manager. -/
structure Account where
  /-- The address of the interface, without slashes at its end. -/
  endpoint : String
  /-- The subscription. -/
  subscription : String
  deriving DecidableEq, Repr

namespace Account

/-- An account at an address with any number of slashes at its end. -/
def of (endpoint subscription : String) : Account :=
  ⟨String.ofList ((endpoint.toList.reverse.dropWhile (· = '/')).reverse), subscription⟩

/-- The address that a text denotes, with pairs after its query. -/
def address (target text : String) (pairs : List (String × String)) : Except ApiError Url :=
  match Url.parse text with
  | .ok url => .ok (url.withPairs pairs)
  | .error fault => .error ⟨.permanent, "build url", target, fault.message⟩

/-- The name of the pair with the version of an interface. -/
def versionKey : String := "api-version"

/-- The version of the listings. -/
def listingVersion : String := "2021-04-01"

/-- The version of the interface of a family. -/
def version : ResourceKind → String
  | .compute => "2023-03-01"
  | .classic => "2017-04-01"

/-- The address of something in the subscription. -/
def inSubscription (account : Account) (path : String) (pairs : List (String × String)) :
    Except ApiError Url :=
  address account.subscription
    (account.endpoint ++ "/subscriptions/" ++ account.subscription ++ "/" ++ path) pairs

/-- Which resources are listed as machines. -/
def machineFilter : String :=
  "resourceType eq '" ++ ResourceKind.compute.typeName ++ "' or resourceType eq '" ++
    ResourceKind.classic.typeName ++ "'"

/-- The first page of machines. -/
def machinesFrom (account : Account) : Except ApiError Url :=
  account.inSubscription "resources" [("$filter", machineFilter), (versionKey, listingVersion)]

/-- The first page of resource groups. -/
def groupsFrom (account : Account) : Except ApiError Url :=
  account.inSubscription "resourcegroups" [(versionKey, listingVersion)]

/-- The address of a resource of a family, or of something below it. -/
def resource (account : Account) (kind : ResourceKind) (id : String) (below : Option String) :
    Except ApiError Url :=
  address id (account.endpoint ++ id ++ below.elim "" ("/" ++ ·)) [(versionKey, version kind)]

/-- Where the power state of a machine stands, below the machine. -/
def powerView : ResourceKind → Option String
  | .compute => some "instanceView"
  | .classic => none

/-- The name of a change of power. -/
def actionName : ResourceKind → PowerAction → String
  | _, .start => "start"
  | .compute, .stop => "deallocate"
  | .classic, .stop => "shutdown"

end Account

end OffHours.Manager
