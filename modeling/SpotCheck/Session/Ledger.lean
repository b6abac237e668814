/-!
# The session ledger

Every session that is opened is entered, and left once when it ends, however it ends. The
difference is the number of live sessions.
-/

namespace SpotCheck

structure SessionLedger where
  opened : Nat
  closed : Nat
  deriving DecidableEq

namespace SessionLedger

def empty : SessionLedger := ⟨0, 0⟩

def enter (l : SessionLedger) : SessionLedger := { l with opened := l.opened + 1 }

def leave (l : SessionLedger) : SessionLedger := { l with closed := l.closed + 1 }

/-- Sessions opened and not ended; never negative. -/
def live (l : SessionLedger) : Nat := l.opened - l.closed

end SessionLedger

end SpotCheck
