import DesignGraph.Address.DomainName
import DesignGraph.Address.Ipv4
import DesignGraph.Address.Ipv6
import DesignGraph.Address.Percent

/-!
# Hosts

The server of an address has a name or a numeric address. Schemes without rules for
names keep the name as it is written.
-/

namespace DesignGraph.Address

open Text

/-- The server of an address. -/
inductive Host where
  | name (ascii : List Char)
  | ipv4 (address : Ipv4)
  | ipv6 (address : Ipv6)
  | verbatim (text : List Char)
  deriving DecidableEq, Repr

namespace Host

def text : Host → List Char
  | .name ascii => ascii
  | .ipv4 address => address.text
  | .ipv6 address => '[' :: address.text ++ [']']
  | .verbatim text => text

def ofBracketed? (text : List Char) : Option Host :=
  if text.getLast? = some ']' then (Ipv6.read? (text.drop 1).dropLast).map .ipv6 else none

/-- A name, or a numeric address where the name can only be one. -/
def ofName? (name : List Char) : Option Host :=
  if name.isEmpty then none
  else if Ipv4.isMeant name then (Ipv4.read? name).map .ipv4
  else some (.name name)

/-- The host that a text spells where names have rules. -/
def read? (text : List Char) : Option Host :=
  if text.head? = some '[' then ofBracketed? text
  else do
    let name ← ofUtf8? (percentDecode text)
    ofName? (← asciiName? name.toList)

/-- Characters that no host may hold, also where names have no rules. -/
def isForbidden (c : Char) : Bool :=
  c == '\x00' || c == '\t' || c == '\n' || c == '\r' || " #/:<>?@[\\]^|".toList.contains c

/-- The host that a text spells where names have no rules. -/
def readVerbatim? (text : List Char) : Option Host :=
  if text.head? = some '[' then ofBracketed? text
  else if text.any isForbidden then none
  else some (.verbatim (percentEncode refusedAnywhere text))

end Host

end DesignGraph.Address
