import TableServer.Http.Coding
import TableServer.Http.Cookie
import TableServer.Http.Credentials
import TableServer.Http.Reason
import TableServer.Http.Target
import TableServer.Service.Exchange
import TableServer.Text.Encoder

/-! A client of a service: messages with a target become requests, and responses become deliveries
with a reason and the length of their content, which is decoded. A client keeps cookies. -/
namespace TableServer

structure Message where
  method : String
  target : String
  headers : Headers
  body : Text.Octets

structure Delivery where
  status : Int
  reason : String
  headers : Headers
  content : Text.Octets

/-- Why a message is not delivered: the service has a fault, an address or a domain name is not
valid, a header is not ASCII, content cannot be decoded, or a response leads nowhere. -/
inductive ClientFault where
  | service (fault : Fault)
  | address
  | domain (fault : DomainFault)
  | header (fault : Text.EncodeFault)
  | coding
  | redirection

def ClientFault.message : ClientFault → String
  | service f => f.message
  | address => "the address is not valid"
  | domain f => f.message
  | header f => f.message
  | coding => "the content cannot be decoded"
  | redirection => "the location is not valid"

namespace Headers

def checkText (text : String) : Except ClientFault Unit :=
  (Text.checkAscii text).mapError .header

/-- Headers travel as ASCII. -/
def check (headers : Headers) : Except ClientFault Unit :=
  headers.forM fun h => do
    checkText h.1
    checkText h.2

def default (name text : String) (headers : Headers) : Headers :=
  if Entries.has name headers then headers else Entries.put name text headers

end Headers

namespace Message

/-- Headers under names in lower case. Those of one name are joined. -/
def join (headers : Headers) : Headers :=
  headers.foldl (fun joined h =>
    let name := Headers.lowered h.1
    Entries.put name (match Entries.find? name joined with
      | none => h.2
      | some text => text ++ ", " ++ h.2) joined) []

/-- Headers that every client sends unless told otherwise. -/
def standing : Headers :=
  [("accept", "*/*"), ("accept-encoding", "gzip, deflate"), ("connection", "keep-alive"),
   ("user-agent", "python-httpx/0.28.1")]

/-- The length of a body. One that is empty has a length only if the method asks for a body. -/
def length? (m : Message) (method : String) (headers : Headers) : Option Nat :=
  if !m.body.isEmpty then some m.body.length
  else if method ∈ ["POST", "PUT", "PATCH"] && !Entries.has "transfer-encoding" headers then some 0
  else none

/-- The host that is sent; it is a valid name. -/
def host (a : Address) (headers : Headers) : Except ClientFault Headers :=
  if Entries.has "host" headers then .ok headers
  else
    ((Host.name a.host).mapError .domain).map fun name =>
      if name.isEmpty then headers else Entries.put "host" a.place headers

/-- The credentials of the user in an address, which count before given ones. -/
def authorize (a : Address) (headers : Headers) : Headers :=
  let (user, password) := (Text.cut? ':' a.user).getD (a.user, [])
  let (user, password) := (Escape.decode user, Escape.decode password)
  if user.isEmpty && password.isEmpty then headers
  else Entries.put "authorization" (Credentials.header user password) headers

def sentHeaders (m : Message) (a : Address) (jar : CookieJar) (method : String) :
    Except ClientFault Headers := do
  m.headers.check
  let given := join m.headers
  let named := standing.foldl (fun h s => Headers.default s.1 s.2 h) given
  let known := (jar.header? a).elim named fun text => Headers.default "cookie" text named
  let sized := (m.length? method known).elim known fun n =>
    Headers.default "content-length" (toString n) known
  return authorize a (← host a sized)

def request (m : Message) (a : Address) (jar : CookieJar) : Except ClientFault Request :=
  let method := String.ofList (Text.upper m.method.toList)
  let target := Target.ofAddress a
  (m.sentHeaders a jar method).map fun headers =>
    Request.make method target.path target.query headers m.body

end Message

namespace Delivery

/-- Content that is not empty has a length, unless the headers tell one. -/
def headersOf (r : Response) : Headers :=
  if r.content.isEmpty then r.headers
  else Headers.default "content-length" (toString r.content.length) r.headers

def decode (r : Response) : Except ClientFault Text.Octets :=
  match Coding.decode ((Entries.find? "content-encoding" r.headers).getD "") r.content with
  | some content => .ok content
  | none => .error .coding

def isRedirection (status : Int) : Bool :=
  status ∈ [301, 302, 303, 307, 308]

/-- Checks the location that a response leads to. One with a scheme and no host takes the host, to
which its path has to fit. -/
def checkLocation (r : Response) : Except ClientFault Unit :=
  match if isRedirection r.status then Entries.find? "location" r.headers else none with
  | none => .ok ()
  | some location =>
      match Address.read? location.toList with
      | none => .error .redirection
      | some a =>
          match Host.name a.host with
          | .error f => .error (.domain f)
          | .ok _ =>
              if !a.scheme.isEmpty && a.host.isEmpty && !a.path.isEmpty && a.path.head? != some '/'
              then .error .address
              else .ok ()

def ofResponse (r : Response) : Except ClientFault Delivery := do
  r.headers.check
  let content ← decode r
  checkLocation r
  return ⟨r.status, Http.reason r.status, headersOf r, content⟩

def isJson (d : Delivery) : Bool :=
  Text.occursIn "json".toList ((Entries.find? "content-type" d.headers).getD "").toList

end Delivery

structure Client where
  root : Address
  service : Service
  cookies : CookieJar := []

namespace Client

def reset (c : Client) : Client :=
  { c with service := c.service.reset }

def behind (c : Client) (a : Address) (service : Service) (r : Response) : Client :=
  let cookies := (Entries.find? "set-cookie" r.headers).elim c.cookies fun text =>
    c.cookies.take a text
  { c with service := service, cookies := cookies }

def send (c : Client) (m : Message) : Except ClientFault Delivery × Client :=
  match Address.resolve? c.root m.target with
  | none => (.error .address, c)
  | some a =>
      match m.request a c.cookies with
      | .error f => (.error f, c)
      | .ok request =>
          let e := c.service.handle request
          let service := c.service.behind e
          match e.outcome with
          | .error f => (.error (.service f), { c with service := service })
          | .ok r => (Delivery.ofResponse r, c.behind a service r)

end Client

end TableServer
