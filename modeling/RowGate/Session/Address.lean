import RowGate.Decimal.Integer
import RowGate.Text.Cut

/-! # Addresses of databases -/

namespace RowGate

open Text

/-- The position behind the first `://`, or the beginning. -/
def schemeEnd : List Char → Option Nat
  | [] => none
  | c :: s =>
    if (dropLead? [':', '/', '/'] (c :: s)).isSome then some 3 else (schemeEnd s).map (· + 1)

/-- An address without the password in it. The password stands between the last colon before the
first `@` and that `@`, if the colon does not belong to the scheme. -/
def maskPassword (url : List Char) : List Char :=
  match cutFirst '@' url with
  | none => url
  | some (before, after) => match cutLast ':' before with
    | none => url
    | some (user, _) =>
      if (schemeEnd url).getD 0 < user.length then user ++ ":****@".toList ++ after else url

/-- Why no host and port can be read from an address. -/
inductive AddressFault where
  | noScheme
  | noHost
  | port
deriving DecidableEq, Repr

def AddressFault.message : AddressFault → String
  | noScheme => "relative URL without a base"
  | noHost => "empty host"
  | port => "invalid port number"

/-- The text behind the scheme, a letter first, and its colon. -/
def dropScheme? (url : List Char) : Option (List Char) :=
  match cutFirst ':' url with
  | some (c :: scheme, rest) =>
    if c.isAlpha && scheme.all fun d => d.isAlphanum || d == '+' || d == '-' || d == '.' then
      some rest
    else none
  | _ => none

/-- A port is a number of 16 bits, or left out. -/
def isPort (s : List Char) : Bool := s.all Char.isDigit && Decimal.digitsValue s < 65536

/-- What is wrong with `host:port`. -/
def hostFault? (s : List Char) : Option AddressFault :=
  let (host, port?) := match s with
    | '[' :: _ => match cutLast ']' s with
      | some (host, ':' :: port) => (host, some port)
      | _ => (s, none)
    | _ => match cutFirst ':' s with
      | some (host, port) => (host, some port)
      | none => (s, none)
  match host, port? with
  | [], some _ => some .noHost
  | _, some port => if isPort port then none else some .port
  | _, none => none

/-- What is wrong with an address. An address without `//` has no host to be wrong. -/
def addressFault? (url : List Char) : Option AddressFault :=
  match dropScheme? (url.dropWhile fun c => c.toNat ≤ 0x20) with
  | none => some .noScheme
  | some rest => match dropLead? ['/', '/'] rest with
    | none => none
    | some rest =>
      let authority := rest.takeWhile fun c => c != '/' && c != '?' && c != '#'
      hostFault? (match cutLast '@' authority with
        | some (_, host) => host
        | none => authority)

end RowGate
