/-
# Queries, tags and starting times

`matches_query`, `matches_tag` and `within_start_window` of the component `filter` of `docket-view`,
§4.5 and §10.6 (4) of the specification (DocketFilterSort).

Which entries the settings of a panel let through.  A query or a tag is trimmed; a blank one lets
everything through, any other must occur in the text, both in lower case.  A bounded starting time
lets those through that start from now on and within the bound; an entry without a time does not.
-/

import CourtDocket.Control.Choice
import CourtDocket.Policy
import CourtDocket.Text.Lowercase

namespace CourtDocket

/-- Whether the characters `needle` occur one after another in a text. -/
def occursIn (needle : List Char) : List Char → Bool
  | [] => needle.isEmpty
  | c :: cs => needle.isPrefixOf (c :: cs) || occursIn needle cs

/-- Whether a text holds another one, letter case aside. -/
def holds (needle text : String) : Bool :=
  occursIn (Text.lowercaseChars needle.toList) (Text.lowercaseChars text.toList)

/-- Whether a text answers a query. -/
def matchesQuery (text query : String) : Bool :=
  Text.isBlank query || holds (Text.trim query) text

/-- Whether one of the tags answers a query. -/
def matchesTag (tags : List String) (query : String) : Bool :=
  Text.isBlank query || tags.any (holds (Text.trim query))

/-- Whether a starting time is within a window. -/
def withinWindow (start : Option Timestamp) (now : Int64) (window : StartWindow) : Bool :=
  match window.bound? with
  | none => true
  | some bound => start.any fun t => 0 ≤ millisUntil t now && millisUntil t now ≤ bound

end CourtDocket
