import XmlSettings.Settings.Load
import XmlSettings.Settings.ToElement

/-! # Saving settings

Settings are written to a file as the document that they were loaded from would look like.  Settings
that no document can hold are refused before the file is touched.
-/

namespace XmlSettings.Settings

open XmlSettings.Logging (Record)

inductive SaveError where
  | unwritable (e : WriteError)
  | unusable (fault : FileTree.Fault)

def SaveError.message? : SaveError → Option Text
  | unwritable e => some ("cannot save configuration: " ++ e.message)
  | unusable fault => fault.message?

structure Save where
  files : FileTree
  records : List Record
  result : Except SaveError Unit

def save (files : FileTree) (path : Text) (entries : Section) : Save :=
  match toDocument rootName defaultStep (.table entries) with
  | .error e =>
    let message := "Cannot serialize configuration for " ++ path ++ ": " ++ e.message
    ⟨files, [loaderRecord .error message], .error (.unwritable e)⟩
  | .ok text =>
    match files.replace path text.toByteArray with
    | .error fault => ⟨files, [], .error (.unusable fault)⟩
    | .ok files => ⟨files, [loaderRecord .info ("Configuration saved to " ++ path)], .ok ()⟩

end XmlSettings.Settings
