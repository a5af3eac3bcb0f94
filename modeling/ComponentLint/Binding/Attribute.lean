import ComponentLint.Text.Case

/-!
Attribute names in bindings. A name followed by `$` binds the attribute itself rather than a
property of the same name, and the native ones should be bound that way.
-/

namespace ComponentLint.Binding

def nativeAttributes : List String :=
  ["accesskey", "class", "contenteditable", "contextmenu", "dir", "draggable", "dropzone",
   "hidden", "href", "id", "itemprop", "lang", "spellcheck", "style", "tabindex", "title"]

/-- The accessibility states and properties, and the role. -/
def accessibilityAttributes : List String :=
  ["aria-activedescendant", "aria-atomic", "aria-autocomplete", "aria-busy", "aria-checked",
   "aria-controls", "aria-describedby", "aria-disabled", "aria-dropeffect", "aria-expanded",
   "aria-flowto", "aria-grabbed", "aria-haspopup", "aria-hidden", "aria-invalid", "aria-label",
   "aria-labelledby", "aria-level", "aria-live", "aria-multiline", "aria-multiselectable",
   "aria-orientation", "aria-owns", "aria-posinset", "aria-pressed", "aria-readonly",
   "aria-relevant", "aria-required", "aria-selected", "aria-setsize", "aria-sort",
   "aria-valuemax", "aria-valuemin", "aria-valuenow", "aria-valuetext", "role"]

def lowerName (name : String) : String := String.ofList (Text.lower name.toList)

/-- Whether a name ends with the mark of a native binding. -/
def isMarked (name : String) : Bool := name.toList.getLast? == some '$'

def isNative (name : String) : Bool := nativeAttributes.contains name

/-- Whether a marked name is a native attribute. -/
def isNativeBinding (name : String) : Bool :=
  isMarked name && isNative (String.ofList name.toList.dropLast)

/-- Whether a binding to this name means the native attribute and lacks the mark. The tag is that
of the owning element; `for` counts on a label only. -/
def isProblematic (name : String) (tag : Option String) : Bool :=
  if isMarked name then false
  else
    let low := lowerName name
    if low = "for" then tag == some "label"
    else isNative low || "data-".toList.isPrefixOf low.toList

def isAccessibility (name : String) : Bool := accessibilityAttributes.contains (lowerName name)

end ComponentLint.Binding
