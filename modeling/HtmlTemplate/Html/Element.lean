import HtmlTemplate.Dom.Store

/-!
Elements as the tree builder sees them, and the classes of elements that its rules speak of. An
element without a namespace counts as an HTML element.
-/

namespace HtmlTemplate.Html

def htmlNs : String := "http://www.w3.org/1999/xhtml"

def mathNs : String := "http://www.w3.org/1998/Math/MathML"

def svgNs : String := "http://www.w3.org/2000/svg"

/-- A node of the store that is an element, with its name and namespace, which never change. -/
structure Handle where
  id : Dom.NodeId
  name : String
  ns : Option String
  deriving DecidableEq, Repr

/-- Namespace and name, which tell what an element is. -/
def Handle.kind (h : Handle) : String × String := (h.ns.getD htmlNs, h.name)

/-- Namespace and name of any node; one without a namespace counts as HTML. -/
def kindOf (s : Dom.Store) (id : Dom.NodeId) : String × Option String :=
  match s.content id with
  | .element name (some ns) _ => (if ns.isEmpty then htmlNs else ns, some name)
  | .element name none _ => (htmlNs, some name)
  | _ => (htmlNs, none)

def Handle.isHtml (h : Handle) (name : String) : Bool := h.kind == (htmlNs, name)

/-- HTML elements that end the search for an element to close, with the foreign elements that hold
HTML. -/
def scopeNames : List String :=
  ["applet", "caption", "html", "marquee", "object", "table", "td", "th"]

def mathTextNames : List String := ["mi", "mo", "mn", "ms", "mtext"]

def foreignScope : List (String × String) :=
  (("annotation-xml" :: mathTextNames).map fun name => (mathNs, name))
    ++ ["foreignObject", "desc", "title"].map fun name => (svgNs, name)

/-- The scopes in which an element can be looked for. -/
inductive Scope where
  | plain
  | button
  | list
  | table
  | select
  deriving DecidableEq, Repr

/-- Whether the search for an element in a scope ends at an element. -/
def Scope.stops : Scope → String × String → Bool
  | .plain, (ns, name) =>
    (ns == htmlNs && scopeNames.contains name) || foreignScope.contains (ns, name)
  | .button, (ns, name) =>
    (ns == htmlNs && (name == "button" || scopeNames.contains name))
      || foreignScope.contains (ns, name)
  | .list, (ns, name) =>
    (ns == htmlNs && (name == "ol" || name == "ul" || scopeNames.contains name))
      || foreignScope.contains (ns, name)
  | .table, (ns, name) => ns == htmlNs && (name == "html" || name == "table")
  | .select, (ns, name) => !(ns == htmlNs && (name == "optgroup" || name == "option"))

/-- Whether an element is found in a scope of the open elements, innermost first. -/
def foundInScope (target : Handle → Bool) (scope : Scope) : List Handle → Bool
  | [] => false
  | h :: rest => target h || (!scope.stops h.kind && foundInScope target scope rest)

/-- HTML elements that misnested formatting does not reach across. -/
def specialNames : List String :=
  ["address", "applet", "area", "article", "aside", "base", "basefont", "bgsound", "blockquote",
    "body", "br", "button", "caption", "center", "col", "colgroup", "command", "dd", "details",
    "dir", "div", "dl", "dt", "embed", "fieldset", "figure", "footer", "form", "frame", "frameset",
    "h1", "h2", "h3", "h4", "h5", "h6", "head", "header", "hr", "html", "iframe", "image", "img",
    "input", "isindex", "li", "link", "listing", "marquee", "menu", "meta", "nav", "noembed",
    "noframes", "noscript", "object", "ol", "p", "param", "plaintext", "pre", "script", "section",
    "select", "style", "table", "tbody", "td", "textarea", "tfoot", "th", "thead", "title", "tr",
    "ul", "wbr", "xmp"]

def isSpecial (h : Handle) : Bool :=
  (h.ns.getD htmlNs == htmlNs && specialNames.contains h.name)
    || h.kind == (svgNs, "foreignObject")

/-- Elements whose end tag may be left out, by name alone. -/
def impliedEndNames : List String := ["dd", "dt", "li", "option", "optgroup", "p", "rp", "rt"]

def headingNames : List String := ["h1", "h2", "h3", "h4", "h5", "h6"]

/-- Elements of a table in which text and other elements are misplaced. -/
def tableNames : List String := ["table", "tbody", "tfoot", "thead", "tr"]

/-- Elements that close an open paragraph when they start. -/
def blockNames : List String :=
  ["address", "article", "aside", "blockquote", "center", "details", "dir", "div", "dl", "fieldset",
    "figcaption", "figure", "footer", "header", "hgroup", "main", "menu", "nav", "ol", "p",
    "section", "summary", "ul"]

/-- Elements whose end tag closes everything inside them. -/
def blockEndNames : List String :=
  ["address", "article", "aside", "blockquote", "button", "center", "details", "dialog", "dir",
    "div", "dl", "fieldset", "figcaption", "figure", "footer", "header", "hgroup", "listing",
    "main", "menu", "nav", "ol", "pre", "section", "summary", "ul"]

def formattingNames : List String :=
  ["b", "big", "code", "em", "font", "i", "s", "small", "strike", "strong", "tt", "u"]

/-- Elements of the head that may also stand in the body. -/
def headNames : List String :=
  ["base", "basefont", "bgsound", "command", "link", "meta", "script", "style", "title"]

/-- Start tags that have no meaning outside of a table or a frame set. -/
def misplacedNames : List String :=
  ["caption", "col", "colgroup", "frame", "head", "tbody", "td", "tfoot", "th", "thead", "tr"]

/-- Start tags that end foreign content. -/
def breakoutNames : List String :=
  ["b", "big", "blockquote", "body", "br", "center", "code", "dd", "div", "dl", "dt", "em", "embed",
    "h1", "h2", "h3", "h4", "h5", "h6", "head", "hr", "i", "img", "li", "listing", "menu", "meta",
    "nobr", "ol", "p", "pre", "ruby", "s", "small", "span", "strong", "strike", "sub", "sup",
    "table", "tt", "u", "ul", "var"]

/-- Whether a foreign element takes text and most elements as HTML has them. -/
def isMathText (h : Handle) : Bool := h.ns == some mathNs && mathTextNames.contains h.name

/-- The foreign elements that hold HTML whatever their attributes. -/
def isSvgHtml (h : Handle) : Bool :=
  h.ns == some svgNs && ["foreignObject", "desc", "title"].contains h.name

def isAnnotation (h : Handle) : Bool := h.ns == some mathNs && h.name == "annotation-xml"

/-! Spelling of foreign names, which tags give in lower case -/

def svgTagNames : List String :=
  ["altGlyph", "altGlyphDef", "altGlyphItem", "animateColor", "animateMotion", "animateTransform",
    "clipPath", "feBlend", "feColorMatrix", "feComponentTransfer", "feComposite",
    "feConvolveMatrix", "feDiffuseLighting", "feDisplacementMap", "feDistantLight", "feFlood",
    "feFuncA", "feFuncB", "feFuncG", "feFuncR", "feGaussianBlur", "feImage", "feMerge",
    "feMergeNode", "feMorphology", "feOffset", "fePointLight", "feSpecularLighting", "feSpotLight",
    "feTile", "feTurbulence", "foreignObject", "glyphRef", "linearGradient", "radialGradient",
    "textPath"]

def svgAttrNames : List String :=
  ["attributeName", "attributeType", "baseFrequency", "baseProfile", "calcMode", "clipPathUnits",
    "contentScriptType", "contentStyleType", "diffuseConstant", "edgeMode",
    "externalResourcesRequired", "filterRes", "filterUnits", "glyphRef", "gradientTransform",
    "gradientUnits", "kernelMatrix", "kernelUnitLength", "keyPoints", "keySplines", "keyTimes",
    "lengthAdjust", "limitingConeAngle", "markerHeight", "markerUnits", "markerWidth",
    "maskContentUnits", "maskUnits", "numOctaves", "pathLength", "patternContentUnits",
    "patternTransform", "patternUnits", "pointsAtX", "pointsAtY", "pointsAtZ", "preserveAlpha",
    "preserveAspectRatio", "primitiveUnits", "refX", "refY", "repeatCount", "repeatDur",
    "requiredExtensions", "requiredFeatures", "specularConstant", "specularExponent",
    "spreadMethod", "startOffset", "stdDeviation", "stitchTiles", "surfaceScale",
    "systemLanguage", "tableValues", "targetX", "targetY", "textLength", "viewBox", "viewTarget",
    "xChannelSelector", "yChannelSelector", "zoomAndPan"]

def mathAttrNames : List String := ["definitionURL"]

/-- The spelling in a list that differs from a name in letter case only. -/
def respell (spellings : List String) (name : String) : String :=
  (spellings.find? fun spelling => spelling.map Char.toLower == name).getD name

end HtmlTemplate.Html
