/-! # Elements

What a document says once its markup is read: elements with a name, attributes, a text and
children.  Names are local names.  The text of an element is what stands in front of its first
child; the text behind a child is kept with the child.

Texts are of a type `τ`: strings where a document was read, and any texts where one is to be written.
-/

namespace XmlSettings.Xml

/-- An element of a document.  Each child comes with the text behind it. -/
inductive Element (τ : Type) where
  | mk (name : String) (attributes : List (String × τ)) (text : τ)
      (children : List (Element τ × τ))

namespace Element

variable {τ : Type}

def name : Element τ → String
  | mk name _ _ _ => name

def attributes : Element τ → List (String × τ)
  | mk _ attributes _ _ => attributes

def text : Element τ → τ
  | mk _ _ text _ => text

def children : Element τ → List (Element τ × τ)
  | mk _ _ _ children => children

end Element

end XmlSettings.Xml
