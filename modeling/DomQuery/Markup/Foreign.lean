import DomQuery.Markup.Draft

set_option autoImplicit false

namespace DomQuery.Markup

def capitalized (words : List String) : List (String × String) :=
  words.map fun word => (word.map Char.toLower, word)

def svgTags : List (String × String) := capitalized
  ["altGlyph", "altGlyphDef", "altGlyphItem", "animateColor", "animateMotion", "animateTransform",
    "clipPath", "feBlend", "feColorMatrix", "feComponentTransfer", "feComposite",
    "feConvolveMatrix", "feDiffuseLighting", "feDisplacementMap", "feDistantLight", "feDropShadow",
    "feFlood", "feFuncA", "feFuncB", "feFuncG", "feFuncR", "feGaussianBlur", "feImage", "feMerge",
    "feMergeNode", "feMorphology", "feOffset", "fePointLight", "feSpecularLighting", "feSpotLight",
    "feTile", "feTurbulence", "foreignObject", "glyphRef", "linearGradient", "radialGradient",
    "textPath"]

def svgAttrs : List (String × String) := capitalized
  ["attributeName", "attributeType", "baseFrequency", "baseProfile", "calcMode", "clipPathUnits",
    "diffuseConstant", "edgeMode", "filterUnits", "glyphRef", "gradientTransform", "gradientUnits",
    "kernelMatrix", "kernelUnitLength", "keyPoints", "keySplines", "keyTimes", "lengthAdjust",
    "limitingConeAngle", "markerHeight", "markerUnits", "markerWidth", "maskContentUnits",
    "maskUnits", "numOctaves", "pathLength", "patternContentUnits", "patternTransform",
    "patternUnits", "pointsAtX", "pointsAtY", "pointsAtZ", "preserveAlpha", "preserveAspectRatio",
    "primitiveUnits", "refX", "refY", "repeatCount", "repeatDur", "requiredExtensions",
    "requiredFeatures", "specularConstant", "specularExponent", "spreadMethod", "startOffset",
    "stdDeviation", "stitchTiles", "surfaceScale", "systemLanguage", "tableValues", "targetX",
    "targetY", "textLength", "viewBox", "viewTarget", "xChannelSelector", "yChannelSelector",
    "zoomAndPan"]

def mathAttrs : List (String × String) := capitalized ["definitionURL"]

def prefixedAttrs : List (String × String) :=
  [("xlink:actuate", "actuate"), ("xlink:arcrole", "arcrole"), ("xlink:href", "href"),
    ("xlink:role", "role"), ("xlink:show", "show"), ("xlink:title", "title"),
    ("xlink:type", "type"), ("xml:lang", "lang"), ("xml:space", "space"),
    ("xmlns:xlink", "xlink")]

def spelling (table : List (String × String)) (name : String) : String :=
  (table.lookup name).getD name

def foreignAttrs (space : Space) (attrs : List Field) : List Field :=
  let own := match space with
    | .html => []
    | .svg => svgAttrs
    | .mathml => mathAttrs
  attrs.map fun a => (spelling prefixedAttrs (spelling own a.1), a.2)

def foreignTag (space : Space) (tag : Tag) : Tag :=
  let name := if space = .svg then spelling svgTags tag.name else tag.name
  { tag with name, attrs := foreignAttrs space tag.attrs }

end DomQuery.Markup
