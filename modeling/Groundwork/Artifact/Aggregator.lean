import Groundwork.Text.Split
import Groundwork.Text.Trim
import Groundwork.Text.Utf8

/-!
# Aggregators

The bytes of an aggregator and the lines that they register. An aggregator may have been edited by
hand and need not be text throughout, so a line is looked for in what can be read of it, and what is
added is added to the bytes.
-/

namespace Groundwork.Aggregator

open Text

/-- Whether the bytes of an aggregator hold a line, not counting white space at its end. -/
def registers (bytes : List UInt8) (line : String) : Bool :=
  (lines (decodeLossy bytes)).any fun l => trimEndChars l == line.toList

/-- What is appended to the bytes of an aggregator to register a line: the line on a line of its
own. -/
def addition (bytes : List UInt8) (line : String) : List UInt8 :=
  (if bytes.getLast?.any (· != 10) then [10] else []) ++ encode line ++ [10]

end Groundwork.Aggregator
