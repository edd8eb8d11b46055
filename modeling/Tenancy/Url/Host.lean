import Tenancy.Url.Domain
import Tenancy.Url.Ip

/-!
# Hosts in URLs

For the common schemes a host is a domain name in its ASCII form or an address in its canonical form;
for all other schemes it is taken nearly as it stands. Addresses of eight words stand in brackets.
-/

namespace Tenancy.Url

/-- The canonical form of an address between brackets. -/
def bracketed (inner : List Char) : Except UrlFault String :=
  match inner.getLast? with
  | some ']' =>
    match ipv6? inner.dropLast with
    | some words => .ok ("[" ++ ipv6Text words ++ "]")
    | none => .error .ipv6
  | _ => .error .ipv6

/-- The host of a URL with a common scheme. -/
def commonHost : List Char → Except UrlFault String
  | '[' :: inner => bracketed inner
  | text =>
    match asciiDomain? (percentDecode text) with
    | none => .error .internationalName
    | some domain =>
      if domain = [] then .error .emptyHost
      else if endsInNumber domain then
        match ipv4? domain with
        | some n => .ok (ipv4Text n)
        | none => .error .ipv4
      else .ok (String.ofList domain)

/-- A character that no host contains. -/
def isForbidden (c : Char) : Bool :=
  c ∈ ['\x00', '\t', '\n', '\r', ' ', '#', '/', ':', '<', '>', '?', '@', '[', '\\', ']', '^', '|']

/-- The host of a URL with any other scheme. -/
def plainHost : List Char → Except UrlFault String
  | '[' :: inner => bracketed inner
  | text =>
    if text.any isForbidden then .error .domainCharacter
    else .ok (String.ofList (percentEncode (fun _ => false) text))

end Tenancy.Url
