import LooseRecords.Calendar.MailDate
import LooseRecords.Calendar.Pattern
import LooseRecords.Calendar.Timestamp

/-!
# Reading dates

A text is a date if it is a timestamp, a date of a mail message, or fits one of the patterns. The
first of these that accepts the text without the blanks around it decides.
-/

namespace LooseRecords
namespace Instant

open Calendar

/-- The instant that trimmed characters denote. -/
def ofTrimmed? (cs : List Char) : Option Instant :=
  readTimestamp? cs <|> readMailDate? cs <|>
    (dateTimePatterns ++ datePatterns).findSome? (·.read? cs)

/-- The instant that a text denotes, blanks around it left aside. -/
def ofText? (s : String) : Option Instant :=
  ofTrimmed? (Text.trimChars s.toList)

end Instant
end LooseRecords
