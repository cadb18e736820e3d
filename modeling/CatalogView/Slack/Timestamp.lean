import CatalogView.Slack.Conversation
import CatalogView.Text.Numeral
import CatalogView.Time.Calendar

/-!
# Timestamps of messages

A timestamp gives the seconds since the beginning of 1970 and, after a point, a fraction of which
the first six characters count.
-/

namespace CatalogView.Slack

open CatalogView.Text CatalogView.Time

/-- The part of a timestamp before its first point, and the part after it. -/
def splitTimestamp (text : List Char) : List Char × List Char :=
  (text.takeWhile (· ≠ '.'), (text.dropWhile (· ≠ '.')).drop 1)

/-- The microseconds that the part after the point stands for: its first six characters, filled up
with zeros. -/
def micros? (fraction : List Char) : Option UInt32 :=
  if fraction = [] then some 0
  else
    let digits := fraction.take 6
    uint32? (digits ++ List.replicate (6 - digits.length) '0')

/-- The instant that a timestamp stands for. -/
def instant? (timestamp : String) : Option Instant := do
  let (whole, fraction) := splitTimestamp timestamp.toList
  let seconds ← int64? whole
  let micros ← micros? fraction
  Instant.ofParts? seconds (micros * 1000)

/-- When the thread of a conversation began. -/
def Conversation.instant? (conversation : Conversation) : Option Instant :=
  Slack.instant? conversation.message.threadTime

end CatalogView.Slack
