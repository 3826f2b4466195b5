/-!
Addresses at which a debuggee can be reached. A host that is an IPv6 address stands in brackets
before a port, and may be given in brackets too.
-/

namespace Debuggee

structure Address where
  host : String
  port : UInt16
  isIpv6 : Bool
  deriving DecidableEq, Repr

namespace Address

def text (address : Address) : String :=
  let port := toString address.port.toNat
  if address.isIpv6 then "[" ++ address.host ++ "]:" ++ port
  else address.host ++ ":" ++ port

def withoutBrackets (host : List Char) : List Char :=
  match host with
  | '[' :: inner =>
    if inner.getLast? = some ']' then inner.dropLast else host
  | _ => host

def isDecimal (symbol : Char) : Bool :=
  '0' ≤ symbol && symbol ≤ '9'

def isHexadecimal (symbol : Char) : Bool :=
  isDecimal symbol || ('a' ≤ symbol && symbol ≤ 'f') || ('A' ≤ symbol && symbol ≤ 'F')

def splitAt (separator : Char) : List Char → List (List Char)
  | [] => [[]]
  | symbol :: symbols =>
    match splitAt separator symbols with
    | [] => [[symbol]]
    | part :: parts =>
      if symbol = separator then [] :: part :: parts else (symbol :: part) :: parts

def isOctet (part : List Char) : Bool :=
  let value := part.foldl (fun total digit => 10 * total + (digit.toNat - 48)) 0
  !part.isEmpty && part.length ≤ 3 && part.all isDecimal && value ≤ 255 &&
    (part.length = 1 || part.head? ≠ some '0')

def isIpv4 (host : List Char) : Bool :=
  let parts := splitAt '.' host
  parts.length = 4 && parts.all isOctet

def isGroup (part : List Char) : Bool :=
  !part.isEmpty && part.length ≤ 4 && part.all isHexadecimal

/--
How many groups of sixteen bits the parts make up, if they are groups; the last part may be an
IPv4 address, which counts as two.
-/
def groupCount? : List (List Char) → Option Nat
  | [] => some 0
  | [part] => if isGroup part then some 1 else if isIpv4 part then some 2 else none
  | part :: parts => if isGroup part then (groupCount? parts).map (· + 1) else none

def splitDoubleColon : List Char → Option (List Char × List Char)
  | [] => none
  | [_] => none
  | first :: second :: symbols =>
    if first = ':' ∧ second = ':' then some ([], symbols)
    else (splitDoubleColon (second :: symbols)).map fun halves => (first :: halves.1, halves.2)

def halfCount? (half : List Char) : Option Nat :=
  if half.isEmpty then some 0 else groupCount? (splitAt ':' half)

/-- Eight groups, or fewer around one double colon that stands for at least one group. -/
def isIpv6Text (host : List Char) : Bool :=
  match splitDoubleColon host with
  | none => groupCount? (splitAt ':' host) = some 8
  | some (before, after) =>
    match (if isIpv4Last before then none else halfCount? before), halfCount? after with
    | some front, some back => front + back ≤ 7
    | _, _ => false
where
  isIpv4Last (half : List Char) : Bool :=
    ((splitAt ':' half).getLast?).any isIpv4

def nominal (host : String) (port : UInt16) : Address :=
  let inner := withoutBrackets host.toList
  { host := String.ofList inner
    port := port
    isIpv6 := isIpv6Text inner }

end Address

end Debuggee
