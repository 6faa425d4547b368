import OpenApi.Document.Paths
import OpenApi.Json.Printer
import OpenApi.Text.Percent

/-!
# Requests

What is sent to a server. The same header may be spelled with letters of either case.
-/

namespace OpenApi

/-- ASCII letters in their small form. -/
def asciiLower (s : String) : String :=
  String.ofList (s.toList.map Char.toLower)

/-- Equality without regard to the case of ASCII letters. -/
def sameHeader (a b : String) : Bool :=
  asciiLower a == asciiLower b

/-- Data of a call beside its arguments. -/
structure RequestOptions where
  headers : OrderedMap String String := []
  query : OrderedMap String String := []
  cookies : OrderedMap String String := []
  deriving DecidableEq, Repr

namespace RequestOptions

def isEmpty (o : RequestOptions) : Bool :=
  o.headers.isEmpty && o.query.isEmpty && o.cookies.isEmpty

end RequestOptions

structure Request where
  method : Method
  /-- The address without its query. -/
  url : String
  query : List (String × String) := []
  headers : List (String × String) := []
  cookies : List (String × String) := []
  body : Option Json := none

namespace Request

def renderQuery (query : List (String × String)) : String :=
  String.intercalate "&" (query.map fun (name, value) =>
    Text.percentEncode name ++ "=" ++ Text.percentEncode value)

/-- The address with its query. -/
def fullUrl (r : Request) : String :=
  if r.query.isEmpty then r.url else r.url ++ "?" ++ renderQuery r.query

/-- The cookies as the value of one header. -/
def cookieHeader? (r : Request) : Option String :=
  if r.cookies.isEmpty then none
  else some (String.intercalate "; " (r.cookies.map fun (name, value) => name ++ "=" ++ value))

def header? (r : Request) (name : String) : Option String :=
  (r.headers.find? fun entry => sameHeader entry.1 name).map Prod.snd

def queryValue? (r : Request) (name : String) : Option String :=
  (r.query.find? fun entry => entry.1 == name).map Prod.snd

end Request

end OpenApi
