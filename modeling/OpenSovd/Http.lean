import Mathlib.Logic.Function.Basic
import OpenSovd.Provider
import OpenSovd.Support.Gates

/-! Requests and responses as the server's layers see them. Extensions are keyed
by type: a key stands for a type, so a second value of a type replaces the first. -/
namespace OpenSovd.Http
open OpenSovd.Support OpenSovd.Provider

structure Uri where
  scheme : Option String := none
  authority : Option String := none
  path : String
  query : Option String := none

/-- At most one value of every type. -/
structure Extensions {Key : Type} (Val : Key → Type) where
  get : (key : Key) → Option (Val key)

variable {Key : Type} {Val : Key → Type}

namespace Extensions

def empty : Extensions Val := ⟨fun _ => none⟩

def insert [DecidableEq Key] (extensions : Extensions Val) (key : Key) (value : Val key) :
    Extensions Val := ⟨Function.update extensions.get key (some value)⟩

/-- Whatever was there before is replaced. -/
@[simp] theorem get_insert [DecidableEq Key] (extensions : Extensions Val) (key : Key)
    (value : Val key) : (extensions.insert key value).get key = some value :=
  Function.update_self ..

end Extensions

/-- The head of a request. Header values are bytes. -/
structure Parts (Val : Key → Type) where
  method : String
  uri : Uri
  headers : List (String × List UInt8) := []
  extensions : Extensions Val := .empty

namespace Parts

/-- The first value of a header. -/
def header (parts : Parts Val) (name : String) : Option (List UInt8) :=
  (parts.headers.find? fun header => header.1 = name).map Prod.snd

def insertExtension [DecidableEq Key] (parts : Parts Val) (key : Key) (value : Val key) :
    Parts Val := { parts with extensions := parts.extensions.insert key value }

end Parts

/-- `HeaderValue::to_str`: only visible ASCII, spaces and tabs are text. -/
def toStr (value : List UInt8) : Option String :=
  if value.all fun byte => (0x20 ≤ byte && byte < 0x7f) || byte == 0x09 then
    some (String.ofList (value.map Char.ofUInt8))
  else none

structure Request (Val : Key → Type) where
  parts : Parts Val
  body : List UInt8 := []

def Request.insertExtension [DecidableEq Key] (request : Request Val) (key : Key) (value : Val key) :
    Request Val := { request with parts := request.parts.insertExtension key value }

inductive Body where
  | empty
  | json (value : Json)
  | bytes (content : List UInt8)

structure Response where
  status : Nat
  headers : List (String × String) := []
  body : Body := .empty

abbrev Service (Val : Key → Type) (σ : Type) := Gates.Service (Request Val) Response σ

abbrev Layer (Val : Key → Type) (σ : Type) := Gates.Layer (Request Val) Response σ

abbrev Router (Val : Key → Type) (σ : Type) := Gates.Router String (Request Val) Response σ

end OpenSovd.Http
