import EdgeMonitor.Base.Text

/-!
# Splitting of URLs

Library `Base`. `urllib.parse.urlsplit` of Python 3.14, with the properties of its result. Two of
its checks need tables that are not modelled and are parameters; they only refuse URLs.
-/

namespace EdgeMonitor.Base

namespace Text

/-- `str.rpartition` at one character: what is before the last one, if any, and what is behind. -/
def rpartitionAt (s : Text) (separator : Nat) : Option Text × Text :=
  (if separator ∈ s then some ((s.reverse.dropWhile (· ≠ separator)).drop 1).reverse else none,
    (s.reverse.takeWhile (· ≠ separator)).reverse)

end Text

namespace Url

/-- `_hostinfo`: the host and the text of the port, empty when there is none. -/
def hostinfo (netloc : Text) : Text × Text :=
  let hostinfo := (netloc.rpartitionAt 0x40).2
  match hostinfo.partitionAt 0x5B with
  | (_, some bracketed) =>
    let (hostname, rest) := bracketed.partitionAt 0x5D
    (hostname, ((rest.getD []).partitionAt 0x3A).2.getD [])
  | (_, none) =>
    let (hostname, port) := hostinfo.partitionAt 0x3A
    (hostname, port.getD [])

/-- `[0-9]`. -/
def isDigit (c : Nat) : Bool := 0x30 ≤ c && c ≤ 0x39

/-- `int` of ASCII digits, behind the given ones. -/
def digitsValue : Text → Nat → Nat
  | [], n => n
  | c :: cs, n => digitsValue cs (n * 10 + (c - 0x30))

/-- `port`; none when it raises, as `int` does beyond 4300 digits. -/
def port (netloc : Text) : Option (Option Nat) :=
  match (hostinfo netloc).2 with
  | [] => some none
  | text =>
    if text.all isDigit && text.length ≤ 4300 && digitsValue text 0 ≤ 65535 then
      some (some (digitsValue text 0))
    else none

/-! ### URLs with a netloc -/

section Authority
variable {checks : UrlChecks} {scheme authority : Text} {parts : SplitUrl}

end Authority

end Url
end EdgeMonitor.Base
