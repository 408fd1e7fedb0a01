import ProxyRouting.Entry
import ProxyRouting.Profile.Basic

namespace ProxyRouting

/-- What a script returns for a profile: the entry of its main server in the mode of fixed servers,
else a direct connection. -/
def Profile.answer (p : Profile) : Except Fault String :=
  match p.mode?, p.servers with
  | some .fixedServers, some servers =>
    match servers.main? with
    | some server => Entry.announce server
    | none => .ok Entry.direct
  | _, _ => .ok Entry.direct

/-- What a script returns for a route. A route that leads nowhere is a direct connection. -/
def Route.answer (r : Route) (profiles : List Profile) : Except Fault String :=
  match r.kind? with
  | some .inline =>
    match r.server with
    | some server => Entry.announce server
    | none => .ok Entry.direct
  | some .existing =>
    match Profile.find? r.profile profiles with
    | some p => p.answer
    | none => .ok Entry.direct
  | _ => .ok Entry.direct

end ProxyRouting
