import ControlPlane.Address.Basic
import ControlPlane.Delivery.Tcp

/-!
# Networks

What a program can do with addresses: listen on them and connect to them. Low ports are for
privileged programs, and no two listeners share an address.

## Main definitions

- `Network`: what a program sees of the world.
- `Network.bind`: listening on an address.
- `Network.connect`: how connecting to an address goes.
-/

namespace ControlPlane

/-- Whether listening on one host is listening on another one too. The hosts with the number zero
stand for all others, and that of version 6 for those of version 4 as well. -/
def Host.covers : Host → Host → Bool
  | .version6 0 _, _ => true
  | .version4 0, .version4 _ => true
  | a, b => a == b

/-- Whether a host stands for many at once. -/
def Host.isGroup : Host → Bool
  | .version4 _ => false
  | .version6 number _ => number >>> 120 == 0xFF

/-- Whether a host is known on one interface only. -/
def Host.isLocal : Host → Bool
  | .version4 _ => false
  | .version6 number _ => number >>> 118 == 0x3FA

/-- Whether two listeners are in each other's way. Port zero stands for any free one. -/
def Socket.clashes (a b : Socket) : Bool :=
  a.port != 0 && a.port == b.port && (a.host.covers b.host || b.host.covers a.host)

/-- The first port that every program may listen on. -/
def firstOpenPort : Nat := 1024

/-- What a program sees of the world. -/
inductive Network
  /-- Every address can be listened on and be connected to. -/
  | «open»
  /-- No interface is up but one that leads nowhere: all hosts of version 4 can be listened on,
  those of version 6 cannot, and nothing can be connected to. -/
  | isolated
deriving DecidableEq

namespace Network

/-- Why a host cannot be listened on, apart from ports, if it cannot. -/
def hostError? (n : Network) : Host → Option SystemError
  | .version4 _ => none
  | .version6 number scope =>
    match n with
    | .open => none
    | .isolated =>
      if number = 0 then none
      else if (Host.version6 number scope).isLocal then
        if scope = 0 then some .invalidArgument
        else if scope = 1 then some .addressNotAvailable
        else some .noDevice
      else some .addressNotAvailable

/-- Listening on a socket beside those that are taken. -/
def bindSocket (n : Network) (taken : List Socket) (s : Socket) : Except SystemError Unit :=
  if s.host.isGroup then .error .invalidArgument
  else if s.port ≠ 0 ∧ s.port < firstOpenPort then .error .permissionDenied
  else
    match n.hostError? s.host with
    | some e => .error e
    | none => if taken.any s.clashes then .error .addressInUse else .ok ()

/-- Listening on an address beside the sockets that are taken: the socket, or why it cannot be
done. -/
def bind (n : Network) (taken : List Socket) (address : String) : Except SystemError Socket := do
  let s ← Address.resolve address
  n.bindSocket taken s
  return s

/-- How connecting to a socket goes. -/
def connectSocket (n : Network) (s : Socket) : Passage.Part :=
  match n with
  | .open => .done
  | .isolated =>
    match s.host with
    | .version4 _ => .failed .networkUnreachable
    | .version6 _ scope =>
      if s.host.isGroup then .failed .networkUnreachable
      else if s.host.isLocal && scope == 0 then .failed .invalidArgument
      else .failed .addressNotAvailable

/-- How connecting to an address goes. -/
def connect (n : Network) (address : String) : Passage.Part :=
  match Address.resolve address with
  | .error e => .failed e
  | .ok s => n.connectSocket s

end Network

end ControlPlane
