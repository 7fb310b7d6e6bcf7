import ControlPlane.Address.Host
import ControlPlane.SystemError

/-!
# Addresses

An address names a host and a port, with a colon between them. A host of version 6 may stand in
brackets.

## Main definitions

- `Socket`: a host and a port.
- `Address.resolve`: the socket that an address names, or the error of looking for it.
-/

namespace ControlPlane

/-- A host and a port. -/
structure Socket where
  host : Host
  port : Nat
deriving DecidableEq

namespace Address

/-- An address without a colon. -/
def invalidAddress : SystemError := .stream .invalidInput "invalid socket address"

/-- An address whose port is no number below `2 ^ 16`. -/
def invalidPort : SystemError := .stream .invalidInput "invalid port value"

/-- A host that no directory can know. -/
def unknownHost : SystemError :=
  .stream .other "failed to lookup address information: Name or service not known"

/-- A host that a directory might know, if one could be asked. -/
def unresolvedHost : SystemError :=
  .stream .other "failed to lookup address information: Temporary failure in name resolution"

/-- The host and the port, on both sides of the last colon. -/
def split? (address : List Char) : Option (List Char × List Char) :=
  let port := address.reverse.takeWhile (· != ':')
  match address.reverse.dropWhile (· != ':') with
  | [] => none
  | _ :: host => some (host.reverse, port.reverse)

/-- The socket of an address whose host stands in brackets. Its port has digits only. -/
def bracketed? : List Char → Option Socket
  | '[' :: rest => do
    let host ← Host.version6? (rest.takeWhile (· != ']'))
    match rest.dropWhile (· != ']') with
    | ']' :: ':' :: port => return ⟨host, ← (Text.decimal? port).filter (· < UInt16.size)⟩
    | _ => none
  | _ => none

/-- Whether a character may stand in the name of a host. -/
def isNameChar (c : Char) : Bool := c.isAlphanum || c == '-' || c == '_'

/-- Whether a text may be the name of a host: labels of at most 63 characters with dots between
them, 253 characters in all. A dot may end it, and a hyphen may not begin it. -/
def isName (text : List Char) : Bool :=
  let labels := Text.split '.' text
  let labels := if labels.getLast? = some [] then labels.dropLast else labels
  text == ['.'] ||
    (text.head? != some '-' &&
      !labels.isEmpty && labels.all (fun l => !l.isEmpty && l.length ≤ 63 && l.all isNameChar) &&
      labels.foldl (fun n l => n + l.length + 1) 0 ≤ 254)

/-- The name of the machine itself. -/
def ownName : List Char := "localhost".toList

/-- The host that a text names: by its number, or as the machine itself. No directory is asked for
other names. -/
def host (text : List Char) : Except SystemError Host :=
  if text.contains (Char.ofNat 0) then .error .nulInside
  else
    match (Host.version4? text).or (Host.version6? text) with
    | some host => .ok host
    | none =>
      if text.map Char.toLower = ownName then .ok (.version4 0x7F000001)
      else if isName text then .error unresolvedHost
      else .error unknownHost

/-- The socket that an address names, or the error of looking for it. -/
def resolve (address : String) : Except SystemError Socket :=
  match bracketed? address.toList with
  | some socket => .ok socket
  | none =>
    match split? address.toList with
    | none => .error invalidAddress
    | some (name, port) =>
      match Text.unsigned? UInt16.size port with
      | none => .error invalidPort
      | some port => (host name).map (⟨·, port⟩)

end Address

end ControlPlane
