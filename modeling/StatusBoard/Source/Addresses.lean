/-!
Which addresses of the host are worth showing.
-/

namespace StatusBoard.Source

/-- Whether an address is left out: an empty one, the two loopback addresses, and any link-local
address. -/
def isHidden (address : String) : Bool :=
  ["", "127.0.0.1/8", "::1/128"].contains address ||
    ['f', 'e', '8', '0', ':'].isPrefixOf address.toList

def shownAddresses (addresses : List String) : List String :=
  addresses.filter fun a => !isHidden a

end StatusBoard.Source
