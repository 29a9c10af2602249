import PooledTcp.Net.Address

/-!
# The host that sockets are opened on

A host without a network: a local address can be listened on, unless that is done already, but no address
can be reached. Addresses in angle brackets are labels; each stands for the numeric address of the
listener of that name.
-/

namespace PooledTcp

/-- The addresses that are listened on. -/
structure Host where
  inUse : List String := []

namespace Host

/-- Whether a text is a label. -/
def isLabel (addr : String) : Bool := addr.startsWith "<" && addr.endsWith ">"

/-- What becomes of an address when a socket is opened. -/
def lookUp (addr : String) : Address.Lookup :=
  if isLabel addr then .numeric else Address.lookUp addr.toList

/-- Whether a numeric address is one of the host's own. -/
def isLocal (addr : String) : Bool :=
  isLabel addr || ["127.", "0.0.0.0:", "[::1]:", "[::]:"].any (addr.startsWith ·)

/-- Whether the system picks the port. -/
def picksPort (addr : String) : Bool :=
  match Address.splitLastColon addr.toList with
  | some (_, port) => Address.port? port == some 0
  | none => false

/-- Listen on an address. Where the system picks the port, the listener's address is `label`. -/
def listen (h : Host) (addr label : String) : Except IoError (Host × String) :=
  let opened : Except IoError (Host × String) :=
    if picksPort addr then .ok ({ h with inUse := label :: h.inUse }, label)
    else if h.inUse.contains addr then .error (.system .addressInUse)
    else .ok ({ h with inUse := addr :: h.inUse }, addr)
  match lookUp addr with
  | .failed e => .error e
  | .host => opened
  | .numeric => if isLocal addr then opened else .error (.system .cannotAssignAddress)

/-- Stop listening on an address. -/
def release (h : Host) (address : String) : Host := { h with inUse := h.inUse.erase address }

/-- Why an address cannot be connected to. -/
def refusal (addr : String) : IoError :=
  match lookUp addr with
  | .failed e => e
  | _ => .system .networkUnreachable

end Host
end PooledTcp
