import XmlSettings.Logging.Record
import XmlSettings.Store
import XmlSettings.Text.Quoted

/-! # Registries of adapters

A registry finds an adapter, a way to get at settings, by name.  The first adapter that is
registered under a name stays, and a second one is refused.
-/

namespace XmlSettings

open XmlSettings.Text (quoted)

inductive Adapter where
  /-- Reads documents, after loading a dotenv file if it has one. -/
  | xml (envFile? : Option Text)
  /-- Gives the entries of one section, whatever is asked for. -/
  | fixed (id : SectionId)

def Adapter.kindName : Adapter → Text
  | xml _ => "XMLConfig"
  | fixed _ => "StaticAdapter"

structure Registry where
  adapters : Entries Text Adapter

namespace Registry

inductive Refusal where
  | noAdapter
  | taken (name : Text)
  | unknown (name : Text)

def Refusal.message : Refusal → Text
  | noAdapter => "config: register adapter is nil"
  | taken name => "config: register called twice for adapter " ++ name
  | unknown name => "config: unknown adaptername " ++ quoted name ++ " (forgotten import?)"

def empty : Registry := ⟨[]⟩

def contains (registry : Registry) (name : Text) : Bool :=
  registry.adapters.hasKey name

def register (registry : Registry) (name : Text) (adapter? : Option Adapter) :
    Except Refusal Registry :=
  match adapter? with
  | none => .error .noAdapter
  | some adapter =>
    if registry.contains name then .error (.taken name)
    else .ok ⟨registry.adapters.put name adapter⟩

def registration (name : Text) : Logging.Record :=
  ⟨.debug, Logging.registryName, "Registering config adapter: " ++ name⟩

def find (registry : Registry) (name : Text) : Except Refusal Adapter :=
  match registry.adapters.get? name with
  | some adapter => .ok adapter
  | none => .error (.unknown name)

def names (registry : Registry) : List Text :=
  registry.adapters.keys.mergeSort

def standardName : Text := "xml"

def standard : Registry := ⟨[(standardName, .xml none)]⟩

end Registry

end XmlSettings
