import SchemaLint.Http.Address
import SchemaLint.Http.Network
import SchemaLint.LintError

/-!
# Requests

A reply that names another location is followed there, but only so often.  What stops a request on its way becomes an
error of the linter; an address that is none is a crash, because it is not the network that fails.
-/

namespace SchemaLint

namespace Http

/-- The kinds of content that are asked for when nothing is said. -/
def anyContent : String := "*/*"

/-- How long a reply may take, in seconds. -/
def patience : Binary64 := .ofInt 30

/-- How many replies that lead elsewhere are followed. -/
def hopLimit : Nat := 20

namespace Reply

def isOk (r : Reply) : Bool :=
  200 ≤ r.status && r.status < 300

/-- The values of a header; its name is told in any case. -/
def header (r : Reply) (name : String) : List String :=
  (r.headers.filter fun (n, _) => n.toLower = name).map Prod.snd

/-- Where a reply leads, if it leads elsewhere. -/
def location? (r : Reply) : Option String :=
  if [301, 302, 303, 307, 308].contains r.status then
    match r.header "location" with
    | [] => none
    | values => some (String.intercalate ", " values)
  else none

/-- The method of the request that follows a reply. -/
def nextMethod (r : Reply) (method : String) : String :=
  if (r.status = 303 || r.status = 302) && method != "HEAD" then "GET"
  else if r.status = 301 && method = "POST" then "GET"
  else method

end Reply

/-- How a request ends without a reply. -/
inductive RequestFault
  | broken (reason : String)
  | late
  | address (f : AddressFault)

def nextAddress (base : Address) (location : String) : Except RequestFault Address :=
  match Address.read location.toList with
  | .error fault =>
    let reason := fault.message
    .error (.broken s!"Invalid URL in location header: {reason}.")
  | .ok next => (base.follow next).mapError .address

/-- Send a request and follow where replies lead; `hops` counts the requests that may still be sent. -/
def sendFollowing (accept : String) : Nat → String → Address → Network → Except RequestFault Reply × Network
  | 0, _, _, n => (.error (.broken "Exceeded maximum allowed redirects."), n)
  | hops + 1, method, address, n =>
    match n.send ⟨method, address.text, accept⟩ with
    | (.broken reason, n) => (.error (.broken reason), n)
    | (.late, n) => (.error .late, n)
    | (.reply r, n) =>
      match r.location? with
      | none => (.ok r, n)
      | some location =>
        match nextAddress address location with
        | .error fault => (.error fault, n)
        | .ok next => sendFollowing accept hops (r.nextMethod method) next n

def RequestFault.failed (method url : String) : RequestFault → Failed
  | .broken reason => .error (.http s!"Request failed: {reason}" url method)
  | .late => .error (.timeout s!"Request timed out: {method} {url}" patience)
  | .address _ => .crash .address

def request (method url accept : String) (n : Network) : Except Failed Reply × Network :=
  match Address.ofRequest url with
  | .error fault => (.error (RequestFault.failed method url (.address fault)), n)
  | .ok address =>
    let (outcome, n) := sendFollowing accept (hopLimit + 1) method.toUpper address n
    (outcome.mapError (RequestFault.failed method url), n)

end Http

end SchemaLint
