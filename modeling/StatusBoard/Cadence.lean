/-!
At which ticks of the scheduler the console is cleared.
-/

namespace StatusBoard.Cadence

/-- Number of ticks from one clear to the next, given both intervals in milliseconds; at least
one. -/
def clearEvery (tickMs clearMs : Nat) : Nat := max (clearMs / max tickMs 1) 1

/-- Whether a tick starts with a clear: the second tick does, and from there on every `every`-th.
-/
def clears (tick every : Nat) : Bool :=
  let every := max every 1
  tick % every = 1 % every

end StatusBoard.Cadence
