/-!
# Levels of the journal
-/

namespace FluidStructure.Journal

/-- How grave a message is, in increasing order; `off` lets nothing pass. -/
inductive Level where
  | trace
  | debug
  | info
  | warn
  | error
  | critical
  | off
deriving DecidableEq, Repr

namespace Level

def all : List Level := [.trace, .debug, .info, .warn, .error, .critical, .off]

/-- Place in the order. -/
def rank : Level → Nat
  | .trace => 0
  | .debug => 1
  | .info => 2
  | .warn => 3
  | .error => 4
  | .critical => 5
  | .off => 6

/-- Does a message of this level reach a threshold? -/
def reaches (message threshold : Level) : Bool := threshold.rank ≤ message.rank

def name : Level → String
  | .trace => "trace"
  | .debug => "debug"
  | .info => "info"
  | .warn => "warn"
  | .error => "error"
  | .critical => "critical"
  | .off => "off"

def ofName? (name : String) : Option Level := all.find? fun level => level.name = name

end Level

end FluidStructure.Journal
