/-!
# Elements of XML documents

An element with its attributes, the text that comes before its first child, and its children. Text
that follows a child, comments and instructions are left out.
-/

namespace Crosscheck.Document.Xml

/-- An element. The name of one in a namespace begins with the namespace in braces. -/
inductive Element
  | mk (tag : String) (attributes : List (String × String)) (text : String)
      (children : List Element)
  deriving Inhabited, Repr

namespace Element

/-- The name of an element. -/
def tag : Element → String
  | mk tag _ _ _ => tag

/-- The attributes of an element. -/
def attributes : Element → List (String × String)
  | mk _ attributes _ _ => attributes

/-- The text before the first child. -/
def text : Element → String
  | mk _ _ text _ => text

/-- The elements right under an element. -/
def children : Element → List Element
  | mk _ _ _ children => children

/-- The children of a name. -/
def childrenNamed (e : Element) (name : String) : List Element :=
  e.children.filter (·.tag == name)

/-- The first child of a name. -/
def child? (e : Element) (name : String) : Option Element := e.children.find? (·.tag == name)

/-- The value of an attribute. -/
def attribute? (e : Element) (name : String) : Option String :=
  (e.attributes.find? (·.1 == name)).map (·.2)

end Element

end Crosscheck.Document.Xml
