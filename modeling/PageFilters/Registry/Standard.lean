import PageFilters.Cache
import PageFilters.Registry.Basic
import PageFilters.Text.Html
import PageFilters.Text.Percent

namespace PageFilters

namespace Standard

/-- The single argument of `Repeat`: a count. -/
def repeatFactory : Factory
  | [.integer n] =>
    if n < 0 then
      .error (.invalidArgument "Repeat" s!"repeat count must not be negative, got {n}")
    else .ok [.repeated n.toNat]
  | [arg] =>
    .error (.invalidArgument "Repeat" s!"repeat count must be an integer, got {arg.display}")
  | args =>
    .error (.invalidArgument "Repeat" s!"expected exactly one argument, got {args.length}")

/-- A cache key is an integer or a text that is not empty. -/
def cacheKey : Argument → Except FilterError String
  | .integer n => .ok (toString n)
  | .text "" => .error (.invalidArgument "Cache" "cache key must not be empty")
  | .text key => .ok key

/-- A time to live is given as a positive number of seconds. -/
def cacheTtl (arg : Argument) : Except FilterError Nat :=
  match arg with
  | .integer n =>
    if 0 < n then .ok (Clock.second * n.toNat) else refuse
  | .text _ => refuse
where
  refuse : Except FilterError Nat :=
    .error (.invalidArgument "Cache"
      s!"expiry must be a positive number of seconds, got {arg.display}")

/-- The arguments of `Cache`: a key and, if wanted, a time to live. -/
def cacheFactory : Factory
  | [key] => return [.cached (← cacheKey key) none]
  | [key, ttl] => do
    let key ← cacheKey key
    let ttl ← cacheTtl ttl
    return [.cached key (some ttl)]
  | args =>
    .error (.invalidArgument "Cache"
      s!"expected a key and an optional expiry, got {args.length} arguments")

end Standard

open Standard in
/-- The filters that every template may use. -/
def Registry.standard : Registry :=
  ({} : Registry)
    |>.registerSimple "Trim" "Remove leading and trailing whitespace" Text.trim
    |>.registerSimple "NoBlankLines" "Remove lines that contain only whitespace" Text.noBlankLines
    |>.register "Repeat" "Render the wrapped content N times" repeatFactory
    |>.register "Cache"
      "Serve the wrapped content from the cache under a key, rendering it on a miss" cacheFactory
    |>.register "Defer" "Render the wrapped content when the buffer is flushed"
      (.withoutArguments "Defer" [.deferred])
    |>.registerSimple "HtmlEscape" "Escape HTML special characters" Text.htmlEscape
    |>.registerSimple "H" "Escape HTML special characters" Text.htmlEscape
    |>.registerSimple "HTML" "Escape HTML special characters" Text.htmlEscape
    |>.registerSimple "UriEscape" "Percent-encode text for use inside a URI" Text.uriEscape
    |>.registerSimple "U" "Percent-encode text for use inside a URI" Text.uriEscape
    |>.registerSimple "URI" "Percent-encode text for use inside a URI" Text.uriEscape
    |>.registerSimple "HtmlPara" "Wrap blank-line separated paragraphs in <p> tags" Text.htmlPara

end PageFilters
