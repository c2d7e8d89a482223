/-
# Spans of time in milliseconds
-/

namespace CourtDocket

/-- The milliseconds of a minute. -/
def millisPerMinute : Int64 := 60000

/-- The milliseconds of an hour. -/
def millisPerHour : Int64 := 3600000

/-- The milliseconds of a day. -/
def millisPerDay : Int64 := 86400000

end CourtDocket
