import PageFilters.Content

namespace PageFilters

/-- A filter around content. -/
inductive Filter where
  /-- Works on the rendered text. -/
  | simple (apply : String → RenderResult)
  /-- Decides whether, when and how often the content it wraps is rendered. -/
  | dynamic (body : Content)

namespace Filter

def ofText (f : String → String) : Filter := simple fun text => .ok (f text)

/-- The filter around `inner`. -/
def wrap : Filter → Content → Content
  | simple apply, inner => inner.bind fun text => .done (apply text)
  | dynamic body, inner => .fill inner body

/-- Content inside a list of filters, the first of which is outermost. -/
def compose (filters : List Filter) (content : Content) : Content :=
  filters.foldr wrap content

/-- Renders the wrapped content `n` times after `output`. -/
def repeatBody : Nat → String → Content
  | 0, output => .literal output
  | n + 1, output => .yield fun
    | .ok text => repeatBody n (output ++ text)
    | .error error => .fail error

/-- The wrapped content `n` times. -/
def repeated (n : Nat) : Filter := dynamic (repeatBody n "")

/-- The text that the cache holds under `key`, or the wrapped content, which is then stored. -/
def cached (key : String) (ttl : Option Nat) : Filter :=
  dynamic <| .perform (.cacheGet key) fun
    | some hit => .literal hit
    | none => .yield fun
      | .ok text => .perform (.cacheSet key text ttl) fun _ => .literal text
      | .error error => .fail error

/-- A marker now, and the wrapped content in its place when the buffer is flushed. -/
def deferred : Filter :=
  dynamic <| .defer (.yield .done) fun
    | .ok marker => .literal marker.text
    | .error error => .fail error

/-- Moves the wrapped content into a slot. -/
def capture (slot : String) : Filter :=
  dynamic <| .yield fun
    | .ok text => .perform (.writeSlot slot text) fun _ => .literal ""
    | .error error => .fail error

/-- Copies the wrapped content into a slot. -/
def tee (slot : String) : Filter :=
  dynamic <| .yield fun
    | .ok text => .perform (.writeSlot slot text) fun _ => .literal text
    | .error error => .fail error

end Filter

end PageFilters
