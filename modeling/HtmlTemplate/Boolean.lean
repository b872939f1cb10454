/-!
The attributes that are set by being there.
-/

namespace HtmlTemplate

/-- Attributes that are true when present, in lower case. -/
def booleanAttributes : List String :=
  ["allowfullscreen", "async", "autofocus", "autoplay", "capture", "checked", "controls", "default",
    "defer", "disabled", "formnovalidate", "hidden", "itemscope", "loop", "multiple", "muted",
    "novalidate", "open", "playsinline", "readonly", "required", "reversed", "scoped", "seamless",
    "selected"]

end HtmlTemplate
