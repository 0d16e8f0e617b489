-- SUMMARY: The one-line form of a generator for diagnostics.
import Chronicle.Generator.Caller
import Chronicle.Text.Record

namespace Chronicle

def Lease.debug (l : Lease) : String :=
  Text.record "WorkerLease"
    [("worker_id", toString l.workerId), ("acquired_at", toString l.acquiredAt),
      ("expires_at", toString l.expiresAt)]

namespace Generator

def Config.debug (c : Config) : String :=
  Text.record "GeneratorConfig"
    [("lease_ttl", c.leaseTtl.debug), ("lease_jitter", c.leaseJitter.debug),
      ("acquire_attempts", toString c.acquireAttempts), ("retry_delay", c.retryDelay.debug),
      ("sequence_seed_span", toString c.seedSpan)]

def State.debug (s : State) : String :=
  let lease :=
    match s.lease with
    | some l => "Some(" ++ l.debug ++ ")"
    | none => "None"
  Text.record "State"
    [("lease", lease), ("timestamp", toString s.timestamp), ("sequence", toString s.sequence),
      ("resume_at", toString s.resumeAt)]

/-- Settings and state; the gate and the world are left out. -/
def debug (g : Generator) : String :=
  Text.openRecord "UidGenerator" [("config", g.config.debug), ("state", g.state.debug)]

end Generator

end Chronicle
