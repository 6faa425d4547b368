import OpenApi.Document.Basic

/-!
# Servers

A server's address is a template, whose placeholders the variables fill, one variable after the
other.
-/

namespace OpenApi

structure Server where
  template : String
  description : Option String := none
  /-- The values of the variables. -/
  values : OrderedMap String String := []
  deriving DecidableEq, Repr

namespace Server

def ofEntry (entry : ServerEntry) : Server :=
  ⟨entry.url, entry.description, entry.values⟩

def withVariable (s : Server) (name value : String) : Server :=
  { s with values := s.values.insert name value }

def placeholder (name : String) : String :=
  "\x7b" ++ name ++ "\x7d"

def url (s : Server) : String :=
  s.values.foldl (fun url (name, value) => Text.replaceAll url (placeholder name) value)
    s.template

end Server

end OpenApi
