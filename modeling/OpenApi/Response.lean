import OpenApi.Json.Reader
import OpenApi.Request
import OpenApi.Text.Blank

/-!
# Responses

What a server answers. Header names are kept in small letters.
-/

namespace OpenApi

structure Response where
  status : Nat
  headers : OrderedMap String String := []
  body : List UInt8 := []

namespace Response

def withHeader (r : Response) (name value : String) : Response :=
  { r with headers := r.headers.insert (asciiLower name) value }

def withBody (r : Response) (body : List UInt8) : Response :=
  { r with body := body }

/-- A JSON body with its media type and length. -/
def withJson (r : Response) (v : Json) : Response :=
  let body := v.render.toUTF8.toList
  ((r.withHeader "content-type" "application/json").withHeader "content-length"
    (toString body.length)).withBody body

def header? (r : Response) (name : String) : Option String :=
  r.headers.get? (asciiLower name)

/-- A number of at most sixty-four bits, in decimal digits, with a plus sign or without. -/
def lengthOfText? (s : String) : Option Nat :=
  let digits := match Text.trim s.toList with
    | '+' :: rest => rest
    | cs => cs
  let n := Nat.ofDigitChars 10 digits 0
  if !digits.isEmpty && digits.all Char.isDigit && n < 0x10000000000000000 then some n else none

def contentLength? (r : Response) : Option Nat :=
  (r.header? "content-length").bind lengthOfText?

/-- Without a declared length, with a declared length of zero, or without a byte. -/
def isEmpty (r : Response) : Bool :=
  match r.contentLength? with
  | none | some 0 => true
  | some _ => r.body.isEmpty

def isSuccess (r : Response) : Bool :=
  r.status < 400

def json (r : Response) : Except Json.TextError Json :=
  Json.ofBytes r.body

end Response

end OpenApi
