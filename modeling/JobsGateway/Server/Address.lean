import JobsGateway.Text.Utf8
import JobsGateway.Url.Domain

/-!
# Where to listen

The place to listen at is written as a host and a port number with a colon between them. The host
may be an IP address or a name that the machine knows. A port number other than zero can be taken
once; zero stands for any that is free.
-/

namespace JobsGateway

/-- Why there is no listening at a place. -/
inductive ListenFault where
  | noPortNumber
  | invalidPortNumber
  | nulInHost
  | unknownHost
  | inUse
  deriving Repr, DecidableEq, Inhabited

/-- The sentence about a fault. -/
def ListenFault.text : ListenFault → Text
  | .noPortNumber => "invalid socket address".toList
  | .invalidPortNumber => "invalid port value".toList
  | .nulInHost => "file name contained an unexpected NUL byte".toList
  | .unknownHost =>
    "failed to lookup address information: Temporary failure in name resolution".toList
  | .inUse => "Address already in use (os error 98)".toList

/-- A host and a port number, as they are written. -/
structure Address where
  host : Text
  portNumber : Nat
  deriving Repr, DecidableEq, Inhabited

namespace Address

/-- The text before the last colon and the text after it. -/
def cut? (text : Text) : Option (Text × Text) :=
  match text.reverse.dropWhile (· != ':') with
  | [] => none
  | _ :: host => some (host.reverse, (text.reverse.takeWhile (· != ':')).reverse)

/-- Reads an address. -/
def read (text : Text) : Except ListenFault Address :=
  match cut? text with
  | none => .error .noPortNumber
  | some (host, number) =>
    match (Text.unsigned? number).filter (· < 65536) with
    | none => .error .invalidPortNumber
    | some n => if host.contains '\x00' then .error .nulInHost else .ok ⟨host, n⟩

/-- The IP address that a host spells. -/
def numeric? (host : Text) : Option Host :=
  match host with
  | '[' :: rest => (Host.readBracketed rest).toOption
  | _ =>
    if Ipv4.endsInNumber host then (Ipv4.read? host).map .ipv4
    else (Ipv6.read? host).map .ipv6

end Address

/-- Whether a host stands for all addresses of a machine. -/
def Host.isEverywhere : Host → Bool
  | .domain _ => false
  | .ipv4 address => address = 0
  | .ipv6 pieces => pieces.all (· = 0)

/-- A machine: the names that it knows, and where something is listening already. -/
structure Machine where
  names : List (Text × Host)
  occupied : List (Host × Nat)
  deriving Repr, DecidableEq

namespace Machine

/-- The IP address of a host. -/
def resolve? (m : Machine) (host : Text) : Option Host :=
  match Address.numeric? host with
  | some address => some address
  | none => m.names.lookup host

/-- Whether someone else is listening at a place. -/
def isTaken (m : Machine) (host : Host) (portNumber : Nat) : Bool :=
  portNumber != 0 && m.occupied.any fun place =>
    place.2 = portNumber && (place.1 = host || place.1.isEverywhere || host.isEverywhere)

/-- Whether one may listen at the place that a text names. -/
def listen (m : Machine) (text : Text) : Except ListenFault Unit := do
  let address ← Address.read text
  match m.resolve? address.host with
  | none => throw .unknownHost
  | some host => if m.isTaken host address.portNumber then throw .inUse else pure ()

end Machine

end JobsGateway
