import OAuthRedirect.Text.Ascii
import OAuthRedirect.Text.Hex
import OAuthRedirect.Text.Split

/-!
# IP addresses

Which texts are IPv4 and IPv6 addresses. An IPv6 address is eight hexadecimal groups between
colons, where one run of groups may be left out as `::`, the last two groups may be written
as an IPv4 address, and a zone may follow after `%`.
-/

namespace OAuthRedirect.Uri.Address

/-- A number from 0 to 255 in decimal digits, without leading zeros. -/
def isOctet (cs : List Char) : Bool :=
  !cs.isEmpty && cs.length ≤ 3 && cs.all Char.isDigit && (cs == ['0'] || cs.head? != some '0')
    && Text.digitsValue cs ≤ 255

/-- Four octets with points between them. -/
def isV4 (cs : List Char) : Bool :=
  let octets := cs.splitOn '.'
  octets.length == 4 && octets.all isOctet

/-- One to four hexadecimal digits. -/
def isGroup (cs : List Char) : Bool :=
  !cs.isEmpty && cs.length ≤ 4 && cs.all Text.Hex.isDigit

/-- The positions of the empty parts that are neither first nor last. -/
def innerGaps (parts : List (List Char)) : List Nat :=
  (List.range parts.length).filter fun i =>
    0 < i && i + 1 < parts.length && (parts.getD i []).isEmpty

/-- One side of a gap; a single empty part beside the gap belongs to the gap. -/
def besideGap (parts : List (List Char)) : List (List Char) :=
  if parts == [[]] then [] else parts

/-- Eight groups, or at most seven around one gap. -/
def isV6Groups (parts : List (List Char)) : Bool :=
  match innerGaps parts with
  | [] => parts.length == 8 && parts.all isGroup
  | [gap] =>
    let groups := besideGap (parts.take gap) ++ besideGap (parts.drop (gap + 1))
    groups.length ≤ 7 && groups.all isGroup
  | _ => false

/-- The parts of an address, with an IPv4 address at the end replaced by two groups; `none`
when the text at the end looks like one and is none. -/
def v6Parts? (cs : List Char) : Option (List (List Char)) :=
  let parts := cs.splitOn ':'
  let last := parts.getLastD []
  if parts.length < 3 then none
  else if !last.contains '.' then some parts
  else if isV4 last then some (parts.dropLast ++ [['0'], ['0']])
  else none

/-- An IPv6 address, with a zone or without. -/
def isV6 (cs : List Char) : Bool :=
  let (address, zone) := Text.cut '%' cs
  let zoneFits := match zone with
    | none => true
    | some zone => !zone.isEmpty && !zone.contains '%'
  !cs.contains '/' && zoneFits &&
    match v6Parts? address with
    | none => false
    | some parts => parts.length ≤ 9 && isV6Groups parts

end OAuthRedirect.Uri.Address
