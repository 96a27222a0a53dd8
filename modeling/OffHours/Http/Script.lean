import OffHours.Http.Exchange

/-!
# Servers by script

A server that answers each request by a list of replies for its method and target, one after
the other; the last one is given again and again. Whatever has no list is not found.
-/

namespace OffHours.Http

/-- The replies that are left, under methods and targets. -/
abbrev Script := List (String × List Reply)

namespace Script

/-- What a request is looked up by: method and target. -/
def key (request : Request) : String := request.method.name ++ " " ++ request.url.target

/-- The reply to a request that has no list. -/
def noRoute : Reply := .answer 0 ⟨404, some "no route"⟩

/-- The list after a reply is taken from it. -/
def advance : List Reply → List Reply
  | _ :: second :: rest => second :: rest
  | replies => replies

/-- The server of a script. -/
def server : Server Script := fun request script =>
  match (script.lookup (key request)).getD [] with
  | [] => (noRoute, script)
  | reply :: rest =>
    (reply, script.map fun entry =>
      if entry.1 = key request then (entry.1, advance (reply :: rest)) else entry)

end Script

end OffHours.Http
