/-!
# Statuses of an exchange

A negative status is a failure.  Any other is success and, for a receive, the number
of values obtained.
-/

namespace FluidStructure.Channel

/-- Result of a send or a receive. -/
abbrev Status := Int32

namespace Status

def ok : Status := 0

/-- The communication failed. -/
def disconnected : Status := -1

/-- A message with another name, iteration, kind or count than expected. -/
def protocolError : Status := -2

/-- The peer announced the end of its run. -/
def terminated : Status := -3

/-- Did the exchange fail? -/
def failed (status : Status) : Bool := status < 0

def text (status : Status) : String :=
  if status = disconnected then "disconnected"
  else if status = protocolError then "protocol error"
  else if status = terminated then "peer terminated"
  else if status.failed then "unknown error"
  else "ok"

end Status

end FluidStructure.Channel
