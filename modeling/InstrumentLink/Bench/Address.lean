import InstrumentLink.Text.Numeral

/-!
# Addresses

A network address is a host and a port.  A host is written as a number of four
bytes, as eight groups of sixteen bits, perhaps with the link on which they are
good, or as a name.  On a system without a
network no address can be reached, and a name can be looked up only if it is
that of the system itself; what stands in the way depends on how the host is
written.
-/

namespace InstrumentLink

/-- How a host is written. -/
inductive Host where
  | bytes
  /-- Groups, and the number of a link, zero if none is told. -/
  | groups (groups : List Nat) (link : Nat)
  /-- The name of the system itself. -/
  | itself
  /-- Any other name. -/
  | name
  /-- Nothing that a host can be called. -/
  | malformed
  deriving DecidableEq, Repr

namespace Host

/-- Whether a host is a number of four bytes.  The last of its parts takes all
the bytes that the parts before it leave. -/
def isBytes (host : List Char) : Bool :=
  match (host.splitOn '.').reverse with
  | [] => false
  | last :: front =>
      front.length ≤ 3 && front.all (fun part => (Text.literal? 256 part).isSome) &&
        (Text.literal? (1 <<< (8 * (4 - front.length))) last).isSome

/-- A group: up to four hexadecimal digits. -/
def group? (text : List Char) : Option Nat :=
  if text.length ≤ 4 then Text.inBase? 16 text else none

/-- A byte in decimal, without a zero in front. -/
def byte? (text : List Char) : Option Nat :=
  if 1 < text.length ∧ text.head? = some '0' then none
  else (Text.inBase? 10 text).filter (· < 256)

/-- Two groups, written as four bytes. -/
def pair? (text : List Char) : Option (List Nat) :=
  match (text.splitOn '.').mapM byte? with
  | some [a, b, c, d] => some [256 * a + b, 256 * c + d]
  | _ => none

/-- The groups that stand between colons; the last two may be a pair. -/
def plainGroups? : List (List Char) → Option (List Nat)
  | [] => some []
  | [last] => (group? last).map (fun group => [group]) <|> pair? last
  | text :: rest => do return (← group? text) :: (← plainGroups? rest)

/-- The groups on both sides of a gap, which stands for at least one group of
zero.  The gap may end the host, and a pair can only stand behind it. -/
def gappedGroups? (front back : List (List Char)) : Option (List Nat) := do
  let front ← front.mapM group?
  let back ← plainGroups? (if back = [[]] then [] else back)
  let missing := 8 - (front.length + back.length)
  if missing = 0 then none else some (front ++ List.replicate missing 0 ++ back)

/-- The eight groups of a host, if it is written so. -/
def groups? (host : List Char) : Option (List Nat) :=
  let texts := host.splitOn ':'
  match texts.takeWhile (· ≠ []), texts.dropWhile (· ≠ []) with
  | [], [] :: [] :: back@(_ :: _) => gappedGroups? [] back
  | front@(_ :: _), [] :: back@(_ :: _) => gappedGroups? front back
  | _, _ => (plainGroups? texts).filter (·.length = 8)

/-- Whether groups are good for one link only, one to one. -/
def isLinkLocal (groups : List Nat) : Bool := groups.headD 0 >>> 6 == 0xfe80 >>> 6

/-- Whether groups are meant for many. -/
def isMulticast (groups : List Nat) : Bool := groups.headD 0 >>> 8 == 0xff

/-- Whether groups are meant for many that are no further than one link away. -/
def isNearMulticast (groups : List Nat) : Bool :=
  isMulticast groups && [1, 2].contains (groups.headD 0 % 16)

/-- The number of a link, in decimal. -/
def linkNumber? (text : List Char) : Option Nat := (Text.inBase? 10 text).filter (· < UInt32.size)

/-- The link of some groups, which may be called by its name where it matters.
There is only one, that of the system to itself. -/
def link? (groups : List Nat) (text : List Char) : Option Nat :=
  if (isLinkLocal groups || isNearMulticast groups) && text = "lo".toList then some 1
  else linkNumber? text

/-- A host of groups, with the link behind a percent sign if there is one.
`link?` reads the link. -/
def linked? (link? : List Nat → List Char → Option Nat) (host : List Char) : Option Host := do
  let all ← groups? (host.takeWhile (· ≠ '%'))
  match host.dropWhile (· ≠ '%') with
  | [] => some (groups all 0)
  | _ :: text => return groups all (← link? all text)

/-- A host of groups in brackets, which tell them apart from a port.  Its link
has no name. -/
def bracketed? : List Char → Option Host
  | '[' :: inner =>
      if inner.getLast? = some ']' then linked? (fun _ => linkNumber?) inner.dropLast else none
  | _ => none

/-- Whether a host is a name: labels with dots between them, all in all no
longer than names may be.  One more dot may end it, and a dot alone is the
root. -/
def isName (host : List Char) : Bool :=
  let labels := match (host.splitOn '.').reverse with
    | [] :: front => front
    | all => all
  let isLabel (label : List Char) :=
    label ≠ [] && label.length ≤ 63 && label.all fun c => c.isAlphanum || c == '-' || c == '_'
  host = ['.'] ||
    host.head? ≠ some '-' && labels.all isLabel && labels.flatten.length + labels.length ≤ 254

/-- Reads a host as it is written, without asking anybody. -/
def read (host : List Char) : Host :=
  if isBytes host then bytes
  else
    match linked? link? host with
    | some host => host
    | none =>
        if host.map Char.toLower = "localhost".toList then itself
        else if isName host then name
        else malformed

/-- What stands in the way of a connection to a host.  There is no way to bytes,
be they written as groups, nor to groups that are meant for many; groups that
are good for one link need to tell which; and for all other groups there is no
address of one's own to connect from. -/
def obstacle : Host → String
  | bytes | itself | groups [0, 0, 0, 0, 0, 0xffff, _, _] _ =>
      "Network is unreachable (os error 101)"
  | groups all link =>
      if isMulticast all then "Network is unreachable (os error 101)"
      else if isLinkLocal all && link = 0 then "Invalid argument (os error 22)"
      else "Cannot assign requested address (os error 99)"
  | name => "failed to lookup address information: Temporary failure in name resolution"
  | malformed => "failed to lookup address information: Name or service not known"

end Host

namespace Address

/-- The host of an address, and its port behind the last colon. -/
def hostAndPort (address : String) : List Char × List Char :=
  let reversed := address.toList.reverse
  ((reversed.dropWhile (· != ':')).drop 1 |>.reverse, (reversed.takeWhile (· != ':')).reverse)

/-- The host of an address with the given port.  Brackets count only beside a
port that is written in digits. -/
def host (text port : List Char) : Host :=
  let bracketed := if port.all Char.isDigit then Host.bracketed? text else none
  bracketed.getD (Host.read text)

/-- What stands in the way of a connection on a system without a network: the
port is not a number of sixteen bits, or the host has a character that cannot
even be asked for, or is not within reach. -/
def obstacle (address : String) : String :=
  let (text, port) := hostAndPort address
  if (Text.unsigned? UInt16.size port).isNone then "invalid port value"
  else if text.contains '\x00' then "file name contained an unexpected NUL byte"
  else (host text port).obstacle

end Address

end InstrumentLink
